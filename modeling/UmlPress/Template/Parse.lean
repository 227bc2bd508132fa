import UmlPress.Template.Scan
import UmlPress.Template.Tree

/-!
# From tokens to trees

Every function reads from the front of the tokens and leaves the rest. A fault
of the text comes to light when its token becomes the first one. The steps are
limited by a number that grows with the tokens, so the limit is never reached.
-/
namespace UmlPress.Template.Parse

abbrev Parser := StateT (List Token) (Except SyntaxFault)

def fail {α : Type} (f : SyntaxFault) : Parser α := throw f

/-- The first token. After the last one the template is at its end. -/
def current : Parser Token := do
  match ← get with
  | [] => return ⟨0, .done⟩
  | t :: _ => return t

def currentKind : Parser Kind := return (← current).kind

/-- Tokens may not start with a fault. -/
def check : List Token → Except SyntaxFault Unit
  | ⟨_, .bad f⟩ :: _ => .error f
  | _ => .ok ()

def advance : Parser Unit := do
  match ← get with
  | [] => return ()
  | [_] => return ()
  | _ :: r => do
    let _ ← check r
    set r

/-- The token after the first one. -/
def next : Parser Kind := do
  match ← get with
  | _ :: r => do
    let _ ← check r
    return (r.head?.map (·.kind)).getD .done
  | [] => return .done

def isSign (s : String) : Kind → Bool
  | .sign t => s = t
  | _ => false

def isName (s : String) : Kind → Bool
  | .name t => s = t
  | _ => false

def isEnd : Kind → Bool
  | .done => true
  | _ => false

def isBlockEnd : Kind → Bool
  | .blockEnd => true
  | _ => false

def isPrintEnd : Kind → Bool
  | .printEnd => true
  | _ => false

/-- Takes a token of a kind, or says what was wanted in its place. -/
def expect (ok : Kind → Bool) (wanted : String) : Parser Unit := do
  let k ← currentKind
  if ok k then advance
  else if isEnd k then fail (.endedBefore wanted)
  else fail (.expected wanted k.called)

def expectSign (s : String) : Parser Unit := expect (isSign s) s

def expectWord (s : String) : Parser Unit := expect (isName s) s

def expectName : Parser String := do
  match ← currentKind with
  | .name s => do
    advance
    return s
  | .done => fail (.endedBefore "name")
  | k => fail (.expected "name" k.called)

def expectBlockEnd : Parser Unit := expect isBlockEnd "end of statement block"

def skipIf (ok : Kind → Bool) : Parser Bool := do
  if ok (← currentKind) then
    advance
    return true
  else return false

def comparison? : Kind → Option Comparison
  | .sign s =>
    match s with
    | "==" => some .eq
    | "!=" => some .ne
    | "<" => some .lt
    | "<=" => some .le
    | ">" => some .gt
    | ">=" => some .ge
    | _ => none
  | _ => none

def addition? : Kind → Option Arithmetic
  | .sign s =>
    match s with
    | "+" => some .add
    | "-" => some .sub
    | _ => none
  | _ => none

def product? : Kind → Option Arithmetic
  | .sign s =>
    match s with
    | "*" => some .mul
    | "/" => some .div
    | "//" => some .floordiv
    | "%" => some .mod
    | _ => none
  | _ => none

/-- Where a list of expressions without brackets has to end. -/
def endsTuple (more : Option String) (k : Kind) : Bool :=
  match k with
  | .printEnd => true
  | .blockEnd => true
  | .sign s => s = ")"
  | .name s => more = some s
  | _ => false

/-- Texts that follow each other are one. -/
def texts : Nat → Parser String
  | 0 => return ""
  | n + 1 => do
    match ← currentKind with
    | .text s => do
      advance
      return s ++ (← texts n)
    | _ => return ""

/-- A name that goes on after dots. -/
def dotted : Nat → String → Parser String
  | 0, name => return name
  | n + 1, name => do
    if ← skipIf (isSign ".") then
      let more ← expectName
      dotted n (name ++ "." ++ more)
    else return name

def constant? : String → Option Value
  | "true" => some (.bool true)
  | "True" => some (.bool true)
  | "false" => some (.bool false)
  | "False" => some (.bool false)
  | "none" => some .none
  | "None" => some .none
  | _ => none

/-- Whether a test takes what follows it as its argument. -/
def opensArgument : Kind → Bool
  | .name s => s ≠ "else" && s ≠ "or" && s ≠ "and"
  | .text _ => true
  | .int _ => true
  | .real _ => true
  | .sign s => s = "[" || s = "\x7b"
  | _ => false

mutual

/-- An expression with a choice on top. -/
def expression : Nat → Parser Expr
  | 0 => fail .badCall
  | n + 1 => do
    let line := (← current).line
    choices n line (← disjunction n)

def choices : Nat → Nat → Expr → Parser Expr
  | 0, _, e => return e
  | n + 1, line, e => do
    if ← skipIf (isName "if") then
      let condition ← disjunction n
      let no ← if ← skipIf (isName "else") then pure (some (← expression n)) else pure none
      let after := (← current).line
      choices n after (.choice condition e no line)
    else return e

def disjunction : Nat → Parser Expr
  | 0 => fail .badCall
  | n + 1 => do disjunctions n (← conjunction n)

def disjunctions : Nat → Expr → Parser Expr
  | 0, e => return e
  | n + 1, e => do
    if ← skipIf (isName "or") then disjunctions n (.either e (← conjunction n)) else return e

def conjunction : Nat → Parser Expr
  | 0 => fail .badCall
  | n + 1 => do conjunctions n (← negation n)

def conjunctions : Nat → Expr → Parser Expr
  | 0, e => return e
  | n + 1, e => do
    if ← skipIf (isName "and") then conjunctions n (.both e (← negation n)) else return e

def negation : Nat → Parser Expr
  | 0 => fail .badCall
  | n + 1 => do
    if ← skipIf (isName "not") then return .negate (← negation n) else comparison n

def comparison : Nat → Parser Expr
  | 0 => fail .badCall
  | n + 1 => do
    let e ← sum n
    match ← comparisons n with
    | [] => return e
    | rest => return .compare e rest

def comparisons : Nat → Parser (List (Comparison × Expr))
  | 0 => return []
  | n + 1 => do
    let k ← currentKind
    if let some op := comparison? k then
      advance
      let e ← sum n
      return (op, e) :: (← comparisons n)
    else if isName "in" k then
      advance
      let e ← sum n
      return (.within, e) :: (← comparisons n)
    else if isName "not" k then
      if isName "in" (← next) then
        advance
        advance
        let e ← sum n
        return (.notWithin, e) :: (← comparisons n)
      else return []
    else return []

def sum : Nat → Parser Expr
  | 0 => fail .badCall
  | n + 1 => do sums n (← juxtaposition n)

def sums : Nat → Expr → Parser Expr
  | 0, e => return e
  | n + 1, e => do
    match addition? (← currentKind) with
    | some op => do
      advance
      sums n (.arithmetic op e (← juxtaposition n))
    | none => return e

def juxtaposition : Nat → Parser Expr
  | 0 => fail .badCall
  | n + 1 => do
    let e ← product n
    match ← juxtapositions n with
    | [] => return e
    | rest => return .joined (e :: rest)

def juxtapositions : Nat → Parser (List Expr)
  | 0 => return []
  | n + 1 => do
    if ← skipIf (isSign "~") then
      let e ← product n
      return e :: (← juxtapositions n)
    else return []

def product : Nat → Parser Expr
  | 0 => fail .badCall
  | n + 1 => do products n (← power n)

def products : Nat → Expr → Parser Expr
  | 0, e => return e
  | n + 1, e => do
    match product? (← currentKind) with
    | some op => do
      advance
      products n (.arithmetic op e (← power n))
    | none => return e

def power : Nat → Parser Expr
  | 0 => fail .badCall
  | n + 1 => do powers n (← unary n true)

def powers : Nat → Expr → Parser Expr
  | 0, e => return e
  | n + 1, e => do
    if ← skipIf (isSign "**") then powers n (.arithmetic .pow e (← unary n true)) else return e

def unary : Nat → Bool → Parser Expr
  | 0, _ => fail .badCall
  | n + 1, filtered => do
    let k ← currentKind
    let e ← if isSign "-" k then do
        advance
        pure (.minus (← unary n false))
      else if isSign "+" k then do
        advance
        pure (.plus (← unary n false))
      else primary n
    let e ← postfixes n e
    if filtered then filters n e else return e

def primary : Nat → Parser Expr
  | 0 => fail .badCall
  | n + 1 => do
    match ← currentKind with
    | .name s => do
      advance
      return match constant? s with
        | some c => .constant c
        | none => .name s
    | .text _ => return .constant (.plain (← texts n))
    | .int i => do
      advance
      return .constant (.int i)
    | .real x => do
      advance
      return .constant (.real x)
    | .sign "(" => do
      advance
      let e ← bracketed n
      expectSign ")"
      return e
    | .sign "[" => do
      advance
      let es ← listItems n true
      expectSign "]"
      return .list es
    | .sign "\x7b" => do
      advance
      let ps ← pairs n true
      expectSign "\x7d"
      return .record ps
    | k => fail (.unexpected k.called)

/-- Expressions with commas between them; a single one without a comma stands
for itself. -/
def tupleOf : Nat → Bool → Bool → Option String → Parser Expr
  | 0, _, _, _ => fail .badCall
  | n + 1, simple, chosen, more => do
    let (es, isTuple) ← tupleItems n simple chosen more true
    match es, isTuple with
    | [e], false => return e
    | [], false => fail (.noExpression (← currentKind).called)
    | es, _ => return .tuple es

/-- The same within parentheses, which may hold nothing. -/
def bracketed : Nat → Parser Expr
  | 0 => fail .badCall
  | n + 1 => do
    let (es, isTuple) ← tupleItems n false true none true
    match es, isTuple with
    | [e], false => return e
    | es, _ => return .tuple es

def tupleItems : Nat → Bool → Bool → Option String → Bool → Parser (List Expr × Bool)
  | 0, _, _, _, _ => fail .badCall
  | n + 1, simple, chosen, more, first => do
    if !first then expectSign ","
    if endsTuple more (← currentKind) then return ([], !first)
    let e ← if simple then primary n else if chosen then expression n else disjunction n
    if isSign "," (← currentKind) then
      let (es, _) ← tupleItems n simple chosen more false
      return (e :: es, true)
    else return ([e], !first)

def listItems : Nat → Bool → Parser (List Expr)
  | 0, _ => fail .badCall
  | n + 1, first => do
    if isSign "]" (← currentKind) then return []
    if !first then expectSign ","
    if isSign "]" (← currentKind) then return []
    let e ← expression n
    return e :: (← listItems n false)

def pairs : Nat → Bool → Parser (List (Expr × Expr))
  | 0, _ => fail .badCall
  | n + 1, first => do
    if isSign "\x7d" (← currentKind) then return []
    if !first then expectSign ","
    if isSign "\x7d" (← currentKind) then return []
    let key ← expression n
    expectSign ":"
    let value ← expression n
    return (key, value) :: (← pairs n false)

def postfixes : Nat → Expr → Parser Expr
  | 0, e => return e
  | n + 1, e => do
    let k ← currentKind
    if isSign "." k then
      advance
      postfixes n (← dotMember e)
    else if isSign "[" k then
      advance
      let e ← subscript n e
      postfixes n e
    else if isSign "(" k then
      let args ← arguments n
      postfixes n (.call e args)
    else return e

/-- What follows a dot. -/
def dotMember (e : Expr) : Parser Expr := do
  let k ← currentKind
  advance
  match k with
  | .name s => return .member e s
  | .int i => return .item e (.constant (.int i))
  | _ => fail .noMember

/-- What follows an opening bracket. -/
def subscript : Nat → Expr → Parser Expr
  | 0, _ => fail .badCall
  | n + 1, e => do
    let parts ← subscripts n true
    expectSign "]"
    match parts with
    | [.inl index] => return .item e index
    | [.inr (start, stop, step)] => return .slice e start stop step
    | parts => return .item e (.tuple (parts.filterMap fun p => p.getLeft?))

def subscripts : Nat → Bool →
    Parser (List (Expr ⊕ (Option Expr × Option Expr × Option Expr)))
  | 0, _ => fail .badCall
  | n + 1, first => do
    if isSign "]" (← currentKind) then return []
    if !first then expectSign ","
    let start ← if isSign ":" (← currentKind) then pure none else pure (some (← expression n))
    let part ← if ← skipIf (isSign ":") then do
        let stop ← sliceEnd n
        let step ← if ← skipIf (isSign ":") then sliceEnd n else pure none
        pure (.inr (start, stop, step))
      else pure (.inl (start.getD (.constant .none)))
    return part :: (← subscripts n false)

def sliceEnd : Nat → Parser (Option Expr)
  | 0 => fail .badCall
  | n + 1 => do
    let k ← currentKind
    if isSign ":" k || isSign "]" k || isSign "," k then return none
    else return some (← expression n)

/-- Arguments in parentheses. Named ones come last. -/
def arguments : Nat → Parser (List (Option String × Expr))
  | 0 => fail .badCall
  | n + 1 => do
    expectSign "("
    let args ← argumentItems n true false
    expectSign ")"
    return args

def argumentItems : Nat → Bool → Bool → Parser (List (Option String × Expr))
  | 0, _, _ => fail .badCall
  | n + 1, first, named => do
    if isSign ")" (← currentKind) then return []
    if !first then expectSign ","
    match ← currentKind with
    | .sign ")" => return []
    | .name s => do
      if isSign "=" (← next) then
        advance
        advance
        let e ← expression n
        return (some s, e) :: (← argumentItems n false true)
      else argument n named
    | _ => argument n named

def argument : Nat → Bool → Parser (List (Option String × Expr))
  | 0, _ => fail .badCall
  | n + 1, named => do
    if named then fail .badCall
    let e ← expression n
    return (none, e) :: (← argumentItems n false named)

def optionalArguments : Nat → Parser (List (Option String × Expr))
  | 0 => fail .badCall
  | n + 1 => do if isSign "(" (← currentKind) then arguments n else return []

/-- Filters, tests and calls after an expression. -/
def filters : Nat → Expr → Parser Expr
  | 0, e => return e
  | n + 1, e => do
    let k ← currentKind
    if isSign "|" k then
      advance
      let name ← dotted n (← expectName)
      let args ← optionalArguments n
      filters n (.filter e name args)
    else if isName "is" k then
      advance
      let e ← test n e
      filters n e
    else if isSign "(" k then
      let args ← arguments n
      filters n (.call e args)
    else return e

def test : Nat → Expr → Parser Expr
  | 0, _ => fail .badCall
  | n + 1, e => do
    let negated ← skipIf (isName "not")
    let name ← dotted n (← expectName)
    let k ← currentKind
    let args ← if isSign "(" k then arguments n
      else if opensArgument k then do
        if isName "is" k then fail .chainedTests
        let a ← primary n
        let a ← postfixes n a
        pure [(none, a)]
      else pure []
    let t := Expr.test e name args
    return if negated then .negate t else t

end

/-! Statements. -/

/-- The tags that end the enclosing bodies and the tags still open, innermost
first. -/
structure Around where
  wanted : List (List String) := []
  opened : List String := []

def target (n : Nat) (more : Option String) : Parser Target := do
  let e ← tupleOf n true false more
  match e.target? with
  | some t => return t
  | none => fail (.notAssignable e.kind)

/-- The target of a `set`, which may also be a member of a variable. -/
def setTarget (n : Nat) : Parser Target := do
  match ← currentKind with
  | .name s =>
    if (constant? s).isNone && isSign "." (← next) then
      advance
      advance
      return .member s (← expectName)
    else target n none
  | _ => target n none

def isOneOf (names : List String) : Kind → Bool
  | .name s => names.contains s
  | _ => false

mutual

/-- Nodes up to the end, or up to a tag of one of the given names, which is
left in place. -/
def nodes : Nat → Around → Option (List String) → Parser Tree
  | 0, _, _ => fail .badCall
  | n + 1, around, ends => do
    match ← currentKind with
    | .data s => do
      advance
      return .text s :: (← nodes n around ends)
    | .printBegin => do
      advance
      let e ← tupleOf n false true none
      expect isPrintEnd "end of print statement"
      return .print e :: (← nodes n around ends)
    | .blockBegin => do
      advance
      if isOneOf (ends.getD []) (← currentKind) then return []
      let node ← statement n around
      expectBlockEnd
      return node :: (← nodes n around ends)
    | _ => return []

/-- The body of a tag up to one of the tags that may end it. -/
def body : Nat → Around → List String → Parser Tree
  | 0, _, _ => fail .badCall
  | n + 1, around, ends => do
    let _ ← skipIf (isSign ":")
    expectBlockEnd
    let inner := { around with wanted := ends :: around.wanted }
    let ns ← nodes n inner (some ends)
    if isEnd (← currentKind) then fail (.unclosed inner.wanted around.opened.head?)
    return ns

def statement : Nat → Around → Parser Node
  | 0, _ => fail .badCall
  | n + 1, around => do
    match ← currentKind with
    | .name s => do
      let inner := { around with opened := s :: around.opened }
      match s with
      | "if" => do
        advance
        branch n inner
      | "for" => do
        advance
        loop n inner
      | "set" => do
        advance
        assignment n inner
      | "include" => do
        advance
        inclusion n
      | s => fail (.unknownTag s around.wanted around.opened.head?)
    | _ => fail .noTagName

def branch : Nat → Around → Parser Node
  | 0, _ => fail .badCall
  | n + 1, around => do
    let condition ← tupleOf n false false none
    let yes ← body n around ["elif", "else", "endif"]
    let k ← currentKind
    advance
    if isName "elif" k then
      return .branch condition yes [← branch n around]
    else if isName "else" k then
      let no ← body n around ["endif"]
      advance
      return .branch condition yes no
    else return .branch condition yes []

def loop : Nat → Around → Parser Node
  | 0, _ => fail .badCall
  | n + 1, around => do
    let t ← target n (some "in")
    expectWord "in"
    let iterated ← tupleOf n false false (some "recursive")
    let only ← if ← skipIf (isName "if") then pure (some (← expression n)) else pure none
    let _ ← skipIf (isName "recursive")
    let each ← body n around ["endfor", "else"]
    let k ← currentKind
    advance
    if isName "endfor" k then return .loop t iterated only each []
    let otherwise ← body n around ["endfor"]
    advance
    return .loop t iterated only each otherwise

def assignment : Nat → Around → Parser Node
  | 0, _ => fail .badCall
  | n + 1, around => do
    let t ← setTarget n
    if ← skipIf (isSign "=") then return .assign t (← tupleOf n false true none)
    let inner ← body n around ["endset"]
    advance
    return .assignBlock t inner

def inclusion : Nat → Parser Node
  | 0 => fail .badCall
  | n + 1 => do
    let e ← expression n
    let ignored ← if isName "ignore" (← currentKind) then do
        if isName "missing" (← next) then
          advance
          advance
          pure true
        else pure false
      else pure false
    let k ← currentKind
    if isName "with" k || isName "without" k then
      if isName "context" (← next) then
        advance
        advance
    return .include e ignored

end

def tree (tokens : List Token) : Except SyntaxFault Tree := do
  let _ ← check tokens
  let (ns, _) ← (nodes (32 * (tokens.length + 2)) {} none).run tokens
  return ns

end UmlPress.Template.Parse
