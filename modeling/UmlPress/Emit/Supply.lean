import UmlPress.Emit.Plan
import UmlPress.Template.Shelf

/-!
# The supply of templates

Templates come from a directory, and from stock where the directory has none of
a name. Whether there is such a directory is settled when the first template is
asked for. A template that was once taken from stock is taken from there from
then on, while those of the directory are taken as they stand at the time.
-/
namespace UmlPress.Emit.Stock
open Template

def joined (e : Expr) (separator : String) : Node :=
  .print (.filter e "join" [(none, .constant (.plain separator))])

def slot (name : String) : Node := .print (.name name)

/-- A text first and then the items of a list. -/
def withFirst (first list : String) : Expr :=
  .arithmetic .add (.list [.constant (.plain first)]) (.name list)

def classFileHeader : Tree :=
  [.text "import 'dart:async';\n\nimport 'package:leancloud_functions/leancloud_functions.dart';"]

def importLine : Tree :=
  [.text "from ", joined (.name "path") ".", .text " import ",
   .print (.filter (.name "name") "type_name" [])]

def classDeclaration : Tree :=
  [.text "class ", slot "class_name", .text " extends ", slot "base_class", .text " ",
   .branch (.name "inherits") [.text "(", joined (.name "inherits") ", ", .text ")"] [],
   .text "\x7b"]

def constructors : Tree :=
  [slot "class_name", .text "() : super(\"", slot "raw_name", .text "\");\n\n",
   slot "class_name", .text ".fromQueryBackString(String queriedString)\n",
   slot "indent", .text ": super.fromQueryBackString(queriedString);"]

/-- A documentation of one line stands in the line that opens and closes it. -/
def documentation : Tree :=
  [.branch (.compare (.filter (.name "lines") "length" []) [(.gt, .constant (.int 1))])
    [.text "///\"\"\"\n",
     .loop (.name "line") (.name "lines") none [slot "line", .text "\n"] [],
     .text "///\"\"\"\n"]
    [.text "///\"\"\"", .print (.item (.name "lines") (.constant (.int 0))),
     .text "\"\"\"\n"]]

def put : Tree :=
  [.text "void put(String key, Object value) \x7b\n", slot "indent",
   .text "super.put(key, value);\n\x7d"]

def setter : Tree :=
  [.text "void set", slot "fragment", .text "(", slot "type", .text " ",
   slot "name", .text ") \x7b\n", slot "indent", .text "this.put(\"", slot "name",
   .text "\", ", slot "name", .text ");\n\x7d"]

def getter : Tree :=
  [slot "type", .text " get", slot "fragment", .text "() \x7b\n", slot "indent",
   .text "return super.get(\"", slot "name", .text "\");\n\x7d"]

def save : Tree :=
  [.text "Future<", slot "class_name", .text "> save() async \x7b\n", slot "indent",
   .text "super.save();\n", slot "indent", .text "return this;\n\x7d"]

def method : Tree :=
  [.branch (.name "is_static")
    [.text "@classmethod\ndef ", slot "name", .text "(",
     joined (withFirst "cls" "params") ", ", .text "):\n"]
    [.text "def ", slot "name", .text "(", joined (withFirst "self" "params") ", ",
     .text "):\n"]]

def enumFileHeader : Tree := [.text "\nfrom enum import Enum"]

def enumDeclaration : Tree := [.text "class ", slot "name", .text "(Enum):"]

def folder : Folder :=
  [(["class_file_header.dart.j2"], .tree classFileHeader),
   (["import.dart.j2"], .tree importLine),
   (["class_declaration.dart.j2"], .tree classDeclaration),
   (["constructors.dart.j2"], .tree constructors),
   (["doc.dart.j2"], .tree documentation),
   (["put.dart.j2"], .tree put),
   (["setter.dart.j2"], .tree setter),
   (["getter.dart.j2"], .tree getter),
   (["save.dart.j2"], .tree save),
   (["method.dart.j2"], .tree method),
   (["enum_file_header.dart.j2"], .tree enumFileHeader),
   (["enum_declaration.dart.j2"], .tree enumDeclaration)]

end UmlPress.Emit.Stock

namespace UmlPress.Emit

structure Supply where
  /-- Whether the directory was there when the first template was asked for. -/
  hasOwn? : Option Bool := none
  /-- Names of templates that were taken from stock. -/
  fromStock : List String := []

namespace Supply
open Template (Folder Shelf)

/-- The templates of the directory that are still taken from there. -/
def own (s : Supply) (folder? : Option Folder) : Option Folder :=
  if s.hasOwn?.getD folder?.isSome then
    folder?.map fun f =>
      f.filter fun e => !s.fromStock.any fun name => Template.way? name = some e.1
  else none

/-- The shelf that a template is taken from, given what is found at the directory
by now, and the supply after that. -/
def shelf (s : Supply) (found : Found) (name : String) : Except Disk.Refusal (Shelf × Supply) := do
  let folder? ← if s.hasOwn? = some false then pure none else found
  let own := s.own folder?
  let isOwn := (own.bind (Folder.find? name)).isSome
  let isStock := !isOwn && (Folder.find? name Stock.folder).isSome
  return ({ folders := own.toList ++ [Stock.folder] },
    { hasOwn? := some (s.hasOwn?.getD folder?.isSome)
      fromStock := if isStock && !s.fromStock.contains name then name :: s.fromStock
        else s.fromStock })

end Supply
end UmlPress.Emit
