import UmlPress.Proofs.Proper
import UmlPress.Proofs.ReadNumber
import UmlPress.Proofs.ReadText
import UmlPress.Store.Disk

/-!
# Documents are read back

The layout of a file is read as the value it was made of, as long as that is a value that
reading can give: keys stand once, and numbers are in the one form and not too long. What
stands behind a value in the layout is a comma, the end of a line or nothing, and none of
these changes how the value is read.
-/
namespace UmlPress.Json
variable {v : Json}

def isRegular : Json → Bool
  | .real x => x.isNormal
  | .object entries => decide (Keyed.keys entries).Nodup
  | _ => true

def isKept (v : Json) : Bool := v.isRegular && v.isShort

theorem isKept_iff : v.isKept = true ↔ v.isRegular = true ∧ v.isShort = true :=
  Bool.and_eq_true_iff

theorem isKept_object {es : Entries} :
    (Json.object es).isKept = true ↔ (Keyed.keys es).Nodup := by
  rw [isKept_iff, isRegular, decide_eq_true_iff]
  exact and_iff_left rfl

mutual

theorem all_isKept : ∀ v : Json, v.all isKept = (v.all isRegular && v.all isShort)
  | .null | .bool _ | .int _ | .real _ | .text _ => rfl
  | .list vs => by
    rw [all, all, all, allItems_isKept vs, isKept]
    ac_rfl
  | .object es => by
    rw [all, all, all, allEntries_isKept es, isKept]
    ac_rfl

theorem allItems_isKept : ∀ vs : List Json,
    allItems isKept vs = (allItems isRegular vs && allItems isShort vs)
  | [] => rfl
  | v :: r => by
    rw [allItems, allItems, allItems, all_isKept v, allItems_isKept r]
    ac_rfl

theorem allEntries_isKept : ∀ es : List (String × Json),
    allEntries isKept es = (allEntries isRegular es && allEntries isShort es)
  | [] => rfl
  | e :: r => by
    rw [allEntries, allEntries, allEntries, all_isKept e.2, allEntries_isKept r]
    ac_rfl

end

theorem nodup_of_all_isKept {es : Entries} (h : (Json.object es).all isKept = true) :
    (Keyed.keys es).Nodup := isKept_object.1 (all_object.1 h).1

namespace Reader
variable {fuel depth : Nat} {cs rest s : List Char} {c : Char} {k : String} {vs : List Json}
  {es : Entries}

theorem isKept_int_of_digits (negative : Bool) {digits : List Char}
    (hlen : digits.length ≤ digitLimit) (hdigits : ∀ c ∈ digits, isDigit c = true) :
    (Json.int (if negative then -(digitsValue digits : Int) else digitsValue digits)).isKept =
      true := by
  have habs : (if negative then -(digitsValue digits : Int) else digitsValue digits).natAbs =
      Numeral.value digits := by
    split
    · exact Int.natAbs_neg _
    · rfl
  rw [isKept_iff, isShort, habs, decide_eq_true_iff]
  refine ⟨rfl, ?_⟩
  by_cases hne : digits = []
  · rw [hne]
    decide
  · exact (Numeral.length_toDigits_value_le hne fun c hc => isDigit_eq c ▸ hdigits c hc).trans hlen

/-- What a reader gives is kept. -/
theorem reads_isKept : Reads isKept where
  scalar h := by
    obtain ⟨w, hw, rfl⟩ | ⟨negative, digits, hlen, hdigits, rfl⟩ | ⟨negative, digits, e, rfl⟩ :=
      exists_of_scalar h
    · exact (by decide : ∀ w ∈ words, w.2.all isKept = true) w hw
    · exact isKept_int_of_digits negative hlen hdigits
    · exact isKept_iff.2 ⟨Binary64.isNormal_ofDecimal negative digits e, rfl⟩
  text _ := rfl
  list _ := rfl
  object entries := isKept_object.2 (Keyed.nodup_keys_ofList entries)

/-! One step of reading. -/

theorem value_list {r : List Char} (hskip : skip r = c :: cs) (hc : c ≠ ']')
    (h : items fuel (c :: cs) = .ok (vs, rest)) :
    value (fuel + 1) ('[' :: r) = .ok (.list vs, rest) := by
  rw [value.eq_3, hskip]
  split
  · rename_i heq
    exact absurd (List.cons.inj heq).1 hc
  · rw [h]
    rfl

theorem value_object {r : List Char} (hskip : skip r = c :: cs) (hc : c ≠ '\x7d')
    (h : members fuel (c :: cs) = .ok (es, rest)) (hn : (Keyed.keys es).Nodup) :
    value (fuel + 1) ('\x7b' :: r) = .ok (.object es, rest) := by
  rw [value.eq_4, hskip]
  split
  · rename_i heq
    exact absurd (List.cons.inj heq).1 hc
  · rw [h]
    exact congrArg (fun es => Except.ok (Json.object es, rest)) (Keyed.ofList_of_nodup hn)

theorem items_last (h : value fuel cs = .ok (v, s)) (hskip : skip s = ']' :: rest) :
    items (fuel + 1) cs = .ok ([v], rest) := by
  rw [items.eq_2, h]
  dsimp only [bind, Except.bind]
  rw [hskip]
  rfl

theorem items_more {t : List Char} (h : value fuel cs = .ok (v, s)) (hskip : skip s = ',' :: t)
    (hmore : items fuel (skip t) = .ok (vs, rest)) :
    items (fuel + 1) cs = .ok (v :: vs, rest) := by
  rw [items.eq_2, h]
  dsimp only [bind, Except.bind]
  rw [hskip]
  change (items fuel (skip t) >>= fun x => pure (v :: x.1, x.2)) = _
  rw [hmore]
  rfl

/-- A key and its value, up to what stands behind them. -/
theorem members_entry (h : value fuel cs = .ok (v, s)) (hcs : skip (' ' :: cs) = cs) :
    members (fuel + 1) (writtenText k ++ ':' :: ' ' :: cs) =
      match skip s with
      | '\x7d' :: rest => .ok ([(k, v)], rest)
      | ',' :: rest => do
        let (es, rest) ← members fuel (skip rest)
        return ((k, v) :: es, rest)
      | rest => stop .comma rest := by
  have hkey : writtenText k ++ ':' :: ' ' :: cs =
      '\x22' :: (k.toList.flatMap writtenChar ++ '\x22' :: (':' :: ' ' :: cs)) := by
    simp [writtenText]
  rw [hkey, members.eq_2, quotedText_written]
  change (value fuel (skip (' ' :: cs)) >>= fun x => _) = _
  rw [hcs, h]
  rfl

theorem members_last (h : value fuel cs = .ok (v, s)) (hcs : skip (' ' :: cs) = cs)
    (hskip : skip s = '\x7d' :: rest) :
    members (fuel + 1) (writtenText k ++ ':' :: ' ' :: cs) =
      .ok ([(k, v)], rest) := by
  rw [members_entry h hcs, hskip]
  rfl

theorem members_more {t : List Char} (h : value fuel cs = .ok (v, s))
    (hcs : skip (' ' :: cs) = cs) (hskip : skip s = ',' :: t)
    (hmore : members fuel (skip t) = .ok (es, rest)) :
    members (fuel + 1) (writtenText k ++ ':' :: ' ' :: cs) =
      .ok ((k, v) :: es, rest) := by
  rw [members_entry h hcs, hskip]
  change (members fuel (skip t) >>= fun x => pure ((k, v) :: x.1, x.2)) = _
  rw [hmore]
  rfl

/-! White space. -/

theorem skip_cons (hc : isSpace c = false) (cs : List Char) : skip (c :: cs) = c :: cs := by
  rw [skip, List.dropWhile_cons, hc]
  rfl

theorem skip_newLine (depth : Nat) (hc : isSpace c = false) (cs : List Char) :
    skip (newLine depth ++ c :: cs) = c :: cs := by
  have hall : ∀ d ∈ newLine depth, isSpace d = true := by
    rintro d (_ | ⟨_, hd⟩)
    · rfl
    · rw [List.eq_of_mem_replicate hd]
      rfl
  rw [skip, List.dropWhile_append_of_pos hall]
  exact skip_cons hc cs

theorem isPlain_iff : isPlain c = true ↔ isSpace c = false ∧ c ≠ '\x22' ∧ c ≠ '[' ∧
    c ≠ '\x7b' ∧ c ≠ ']' ∧ c ≠ '\x7d' ∧ c ≠ '\ufeff' := by
  simp [isPlain]

theorem exists_fuel {text : List Char} (h : 2 * text.length ≤ fuel) (hne : text ≠ []) :
    ∃ f, fuel = f + 1 := by
  refine Nat.exists_eq_succ_of_ne_zero ?_
  have := List.length_pos_iff.2 hne
  omega

/-- A word or a number is read as a value. -/
theorem value_of_scalar {text : List Char} (htext : ∃ c r, text = c :: r ∧ isPlain c = true)
    (h : scalar (text ++ rest) = .ok (v, rest)) (hfuel : 2 * text.length ≤ fuel) :
    value fuel (text ++ rest) = .ok (v, rest) := by
  obtain ⟨c, r, rfl, hc⟩ := htext
  obtain ⟨-, hquote, hlist, hobject, -⟩ := isPlain_iff.1 hc
  obtain ⟨fuel, rfl⟩ := exists_fuel hfuel (List.cons_ne_nil _ _)
  rw [List.cons_append] at h ⊢
  rw [value.eq_5 _ _ (fun _ heq => hquote (List.cons.inj heq).1)
    (fun _ heq => hlist (List.cons.inj heq).1) (fun _ heq => hobject (List.cons.inj heq).1), h]

/-- What a value in the layout may begin with: nothing that closes a list or an object, and no
mark of the order of bytes. -/
structure Opens (c : Char) : Prop where
  space : isSpace c = false
  list : c ≠ ']'
  object : c ≠ '\x7d'
  mark : c ≠ '\ufeff'

theorem exists_spread (hv : v.isKept = true) (depth : Nat) :
    ∃ c r, v.spread depth = c :: r ∧ Opens c := by
  have hplain : ∀ {text : List Char}, (∃ c r, text = c :: r ∧ isPlain c = true) →
      ∃ c r, text = c :: r ∧ Opens c := by
    rintro text ⟨c, r, rfl, hc⟩
    obtain ⟨hspace, -, -, -, hlist, hobject, hmark⟩ := isPlain_iff.1 hc
    exact ⟨c, r, rfl, hspace, hlist, hobject, hmark⟩
  have hquote : Opens '\x22' := ⟨rfl, by decide, by decide, by decide⟩
  have hlist : Opens '[' := ⟨rfl, by decide, by decide, by decide⟩
  have hobject : Opens '\x7b' := ⟨rfl, by decide, by decide, by decide⟩
  cases v with
  | null => exact hplain ⟨'n', _, rfl, by decide⟩
  | bool b => cases b <;> exact hplain ⟨_, _, rfl, by decide⟩
  | int n => exact hplain (exists_toString_int n)
  | real x => exact hplain (exists_writtenReal (isKept_iff.1 hv).1)
  | text s => exact ⟨'\x22', _, rfl, hquote⟩
  | list vs => cases vs <;> exact ⟨'[', _, rfl, hlist⟩
  | object es => cases es <;> exact ⟨'\x7b', _, rfl, hobject⟩

theorem isKept_of_all (h : v.all isKept = true) : v.isKept = true := by
  cases v with
  | list vs => exact (all_list.1 h).1
  | object es => exact (all_object.1 h).1
  | null | bool _ | int _ | real _ | text _ => exact h

theorem spreadItems_cons (depth : Nat) (v : Json) (vs : List Json) :
    spreadItems depth (v :: vs) = newLine depth ++ (v.spread depth ++
      if vs = [] then [] else ',' :: spreadItems depth vs) := by
  cases vs with
  | nil => simp [spreadItems]
  | cons x r => simp [spreadItems]

theorem spreadEntries_cons (depth : Nat) (k : String) (v : Json) (es : Entries) :
    spreadEntries depth ((k, v) :: es) = newLine depth ++ (writtenText k ++
      ':' :: ' ' :: (v.spread depth ++ if es = [] then [] else ',' :: spreadEntries depth es)) := by
  cases es with
  | nil => simp [spreadEntries]
  | cons e r => simp [spreadEntries]

theorem length_newLine (depth : Nat) : (newLine depth).length = 2 * depth + 1 := by
  simp [newLine]

/-- The rest of a text from the first item on. -/
theorem skip_spreadItems (hv : v.isKept = true) (depth : Nat) (vs : List Json) (cs : List Char) :
    ∃ c r, skip (spreadItems depth (v :: vs) ++ cs) = c :: r ∧ c ≠ ']' ∧
      c :: r = v.spread depth ++
        ((if vs = [] then [] else ',' :: spreadItems depth vs) ++ cs) := by
  obtain ⟨c, r, hhead, hc⟩ := exists_spread hv depth
  refine ⟨c, r ++ ((if vs = [] then [] else ',' :: spreadItems depth vs) ++ cs), ?_, hc.list, ?_⟩
  · rw [spreadItems_cons, List.append_assoc, List.append_assoc, hhead]
    exact skip_newLine depth hc.space _
  · rw [hhead]
    rfl

theorem skip_spreadEntries (depth : Nat) (k : String) (es : Entries) (cs : List Char) :
    ∃ r, skip (spreadEntries depth ((k, v) :: es) ++ cs) = '\x22' :: r ∧
      '\x22' :: r = writtenText k ++ ':' :: ' ' :: (v.spread depth ++
        ((if es = [] then [] else ',' :: spreadEntries depth es) ++ cs)) := by
  refine ⟨_, ?_, rfl⟩
  rw [spreadEntries_cons, List.append_assoc]
  refine Eq.trans ?_ (skip_newLine (c := '\x22') depth rfl _)
  simp [writtenText]

/-! Reading with so much fuel. -/

def ReadsValue (fuel : Nat) : Prop := ∀ v depth rest, v.all isKept = true →
  2 * (v.spread depth).length ≤ fuel → Ends rest →
    value fuel (v.spread depth ++ rest) = .ok (v, rest)

def ReadsItems (fuel : Nat) : Prop := ∀ x vs depth below rest,
  (∀ v ∈ x :: vs, v.all isKept = true) → 2 * (spreadItems depth (x :: vs)).length ≤ fuel →
    items fuel (skip (spreadItems depth (x :: vs) ++ (newLine below ++ ']' :: rest))) =
      .ok (x :: vs, rest)

def ReadsMembers (fuel : Nat) : Prop := ∀ k x es depth below rest,
  (∀ e ∈ (k, x) :: es, e.2.all isKept = true) →
    2 * (spreadEntries depth ((k, x) :: es)).length ≤ fuel →
      members fuel (skip (spreadEntries depth ((k, x) :: es) ++
        (newLine below ++ '\x7d' :: rest))) = .ok ((k, x) :: es, rest)

theorem readsValue_succ (hitems : ReadsItems fuel) (hmembers : ReadsMembers fuel) :
    ReadsValue (fuel + 1) := by
  intro v depth rest hv hfuel hrest
  cases v with
  | null => exact value_of_scalar ⟨'n', _, rfl, by decide⟩ rfl hfuel
  | bool b =>
    cases b with
    | true => exact value_of_scalar ⟨'t', _, rfl, by decide⟩ rfl hfuel
    | false => exact value_of_scalar ⟨'f', _, rfl, by decide⟩ rfl hfuel
  | int n =>
    have hshort := of_decide_eq_true (isKept_iff.1 hv).2
    exact value_of_scalar (exists_toString_int n) (scalar_int hshort hrest) hfuel
  | real x =>
    have hnormal := (isKept_iff.1 hv).1
    exact value_of_scalar (exists_writtenReal hnormal) (scalar_real hnormal hrest) hfuel
  | text s =>
    have htext : spread depth (.text s) ++ rest =
        '\x22' :: (s.toList.flatMap writtenChar ++ '\x22' :: rest) := by
      simp [spread, writtenText]
    rw [htext, value.eq_2, quotedText_written]
    rfl
  | list vs =>
    cases vs with
    | nil => rfl
    | cons x r =>
      have hvs := (all_list.1 hv).2
      have htext : spread depth (.list (x :: r)) =
          '[' :: (spreadItems (depth + 1) (x :: r) ++ (newLine depth ++ [']'])) := by
        simp [spread]
      rw [htext, List.length_cons, List.length_append] at hfuel
      obtain ⟨c, cs, hskip, hc, -⟩ := skip_spreadItems
        (isKept_of_all (hvs x List.mem_cons_self)) (depth + 1) r (newLine depth ++ ']' :: rest)
      have hread := hitems x r (depth + 1) depth rest hvs (by omega)
      rw [hskip] at hread
      rw [htext, List.cons_append, List.append_assoc, List.append_assoc]
      exact value_list hskip hc hread
  | object es =>
    cases es with
    | nil => rfl
    | cons e r =>
      obtain ⟨k, x⟩ := e
      have htext : spread depth (.object ((k, x) :: r)) =
          '\x7b' :: (spreadEntries (depth + 1) ((k, x) :: r) ++ (newLine depth ++ ['\x7d'])) := by
        simp [spread]
      rw [htext, List.length_cons, List.length_append] at hfuel
      obtain ⟨cs, hskip, -⟩ := skip_spreadEntries (v := x) (depth + 1) k r
        (newLine depth ++ '\x7d' :: rest)
      have hread := hmembers k x r (depth + 1) depth rest (all_object.1 hv).2 (by omega)
      rw [hskip] at hread
      rw [htext, List.cons_append, List.append_assoc, List.append_assoc]
      exact value_object hskip (by decide) hread (nodup_of_all_isKept hv)

theorem readsItems_succ (hvalue : ReadsValue fuel) (hitems : ReadsItems fuel) :
    ReadsItems (fuel + 1) := by
  intro x vs depth below rest hvs hfuel
  have hx := hvs x List.mem_cons_self
  rw [spreadItems_cons, List.length_append, List.length_append, length_newLine] at hfuel
  obtain ⟨c, cs, hskip, -, htext⟩ := skip_spreadItems (isKept_of_all hx) depth vs
    (newLine below ++ ']' :: rest)
  rw [hskip, htext]
  cases vs with
  | nil =>
    exact items_last (hvalue x depth _ hx (by omega) (ends_newLine _))
      (skip_newLine below rfl rest)
  | cons y r =>
    rw [if_neg (List.cons_ne_nil y r), List.length_cons] at hfuel
    have hmore := hitems y r depth below rest (List.forall_mem_cons.1 hvs).2 (by omega)
    exact items_more (hvalue x depth _ hx (by omega) (ends_comma _)) (skip_cons rfl _) hmore

theorem readsMembers_succ (hvalue : ReadsValue fuel) (hmembers : ReadsMembers fuel) :
    ReadsMembers (fuel + 1) := by
  intro k x es depth below rest hes hfuel
  have hx := hes (k, x) List.mem_cons_self
  rw [spreadEntries_cons, List.length_append, List.length_append, List.length_cons,
    List.length_cons, List.length_append, length_newLine] at hfuel
  obtain ⟨cs, hskip, htext⟩ := skip_spreadEntries (v := x) depth k es
    (newLine below ++ '\x7d' :: rest)
  obtain ⟨c, tail, hhead, hc⟩ := exists_spread (isKept_of_all hx) depth
  have hblank : ∀ s, skip (' ' :: (x.spread depth ++ s)) = x.spread depth ++ s := fun s => by
    rw [hhead]
    exact skip_cons hc.space (tail ++ s)
  rw [hskip, htext]
  cases es with
  | nil =>
    exact members_last (hvalue x depth _ hx (by omega) (ends_newLine _)) (hblank _)
      (skip_newLine below rfl rest)
  | cons e r =>
    obtain ⟨l, y⟩ := e
    rw [if_neg (List.cons_ne_nil (l, y) r), List.length_cons] at hfuel
    have hmore := hmembers l y r depth below rest (List.forall_mem_cons.1 hes).2 (by omega)
    exact members_more (hvalue x depth _ hx (by omega) (ends_comma _)) (hblank _)
      (skip_cons rfl _) hmore

theorem reads_of_fuel (fuel : Nat) : ReadsValue fuel ∧ ReadsItems fuel ∧ ReadsMembers fuel := by
  induction fuel with
  | zero =>
    refine ⟨fun v depth rest hv hfuel => ?_, fun x vs depth below rest _ hfuel => ?_,
      fun k x es depth below rest _ hfuel => ?_⟩
    · obtain ⟨c, r, htext, -⟩ := exists_spread (isKept_of_all hv) depth
      rw [htext, List.length_cons] at hfuel
      omega
    · rw [spreadItems_cons, List.length_append, length_newLine] at hfuel
      omega
    · rw [spreadEntries_cons, List.length_append, length_newLine] at hfuel
      omega
  | succ fuel ih =>
    obtain ⟨hvalue, hitems, hmembers⟩ := ih
    exact ⟨readsValue_succ hitems hmembers, readsItems_succ hvalue hitems,
      readsMembers_succ hvalue hmembers⟩

end Reader

/-- The layout of a file is read as what it was made of. -/
theorem parse_pretty (hv : v.all isKept = true) : parse v.pretty.toList = .ok v := by
  obtain ⟨c, r, htext, hc⟩ := Reader.exists_spread (Reader.isKept_of_all hv) 0
  have hvalue := (Reader.reads_of_fuel (2 * (v.spread 0).length + 2)).1 v 0 [] hv (by omega)
    Reader.ends_nil
  rw [List.append_nil, htext] at hvalue
  rw [pretty, String.toList_ofList, parse, mapError_eq_ok, htext,
    Reader.document.eq_2 _ (fun _ heq => hc.mark (List.cons.inj heq).1),
    Reader.skip_cons hc.space, hvalue]
  rfl

/-! The layout has no line end but its own. -/

theorem return_not_mem_writtenChar (c : Char) : '\r' ∉ writtenChar c := by
  have hhex : ∀ n < 16, Text.hexDigit n ≠ '\r' := by decide
  unfold writtenChar
  split
  · rename_i e he
    have hne : '\r' ≠ e := by
      rintro rfl
      cases (escaped_of_shortEscape he).1
    simp [hne]
  · rename_i hnone
    have hreturn := (ne_of_shortEscape hnone).2.2
    split
    · change '\r' ∉ '\\' :: 'u' :: Text.hex 4 c.toNat
      refine List.not_mem_cons_of_ne_of_not_mem (by decide)
        (List.not_mem_cons_of_ne_of_not_mem (by decide) fun hmem => ?_)
      obtain ⟨i, -, hi⟩ := List.mem_map.1 hmem
      exact hhex _ (Nat.mod_lt _ (by omega)) hi
    · simp [Ne.symm hreturn]

theorem return_not_mem_writtenText (s : String) : '\r' ∉ writtenText s := by
  have hbody : '\r' ∉ s.toList.flatMap writtenChar := fun hmem => by
    obtain ⟨c, -, hc⟩ := List.mem_flatMap.1 hmem
    exact return_not_mem_writtenChar c hc
  simp [writtenText, hbody]

theorem return_not_mem_newLine (depth : Nat) : '\r' ∉ newLine depth := by
  simp [newLine, List.mem_replicate]

mutual

theorem return_not_mem_spread : ∀ (v : Json) (depth : Nat), '\r' ∉ v.spread depth
  | .null, _ => by simp [spread]
  | .bool true, _ => by simp [spread]
  | .bool false, _ => by simp [spread]
  | .int n, _ => Reader.return_not_mem_of_figures (Reader.figures_int n)
  | .real x, _ => Reader.return_not_mem_of_figures (Reader.figures_real x)
  | .text s, _ => return_not_mem_writtenText s
  | .list [], _ => by simp [spread]
  | .list (x :: r), depth => by
    simp [spread, return_not_mem_newLine, return_not_mem_spreadItems (x :: r) (depth + 1)]
  | .object [], _ => by simp [spread]
  | .object (e :: r), depth => by
    simp [spread, return_not_mem_newLine, return_not_mem_spreadEntries (e :: r) (depth + 1)]

theorem return_not_mem_spreadItems : ∀ (vs : List Json) (depth : Nat), '\r' ∉ spreadItems depth vs
  | [], _ => List.not_mem_nil
  | [v], depth => by
    simp [spreadItems, return_not_mem_newLine, return_not_mem_spread v depth]
  | v :: x :: r, depth => by
    simp [spreadItems, return_not_mem_newLine, return_not_mem_spread v depth,
      return_not_mem_spreadItems (x :: r) depth]

theorem return_not_mem_spreadEntries : ∀ (es : List (String × Json)) (depth : Nat),
    '\r' ∉ spreadEntries depth es
  | [], _ => List.not_mem_nil
  | [(k, v)], depth => by
    simp [spreadEntries, return_not_mem_newLine, return_not_mem_writtenText,
      return_not_mem_spread v depth]
  | (k, v) :: e :: r, depth => by
    simp [spreadEntries, return_not_mem_newLine, return_not_mem_writtenText,
      return_not_mem_spread v depth, return_not_mem_spreadEntries (e :: r) depth]

end

theorem unifyLineEnds_of_not_mem {cs : List Char} (h : '\r' ∉ cs) : Text.unifyLineEnds cs = cs := by
  induction cs with
  | nil => rfl
  | cons c r ih =>
    rw [List.mem_cons, not_or] at h
    rw [Text.unifyLineEnds.eq_3 _ _ (fun _ heq _ => h.1 heq.symm), if_neg (Ne.symm h.1), ih h.2]

/-- A file with the layout of a value is read as its characters. -/
theorem read_pretty (v : Json) : Content.read (.text v.pretty) = .ok v.pretty.toList := by
  rw [Content.read, pretty, String.toList_ofList,
    unifyLineEnds_of_not_mem (return_not_mem_spread v 0)]

end UmlPress.Json
