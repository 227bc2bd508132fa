import UmlPress.Proofs.Index

/-!
# Owners by their ids

The owners of an element are looked up by id, nearest first. If no element has
the id of something that owns it, each look-up leads to an entry that is left
later, so the owners come to an end. If all ids differ, each look-up leads to
the element that was asked for.
-/
namespace UmlPress.Snapshot

def Hashable (s : Snapshot) : Prop := ∀ x ∈ s.index, x.spot.element.id.isKey = true

/-- No element has the id of one of its owners. -/
def OwnersDiffer (s : Snapshot) : Prop :=
  ∀ x ∈ s.index, ∀ y ∈ s.index, x.spot.isAbove y.spot = true →
    y.spot.element.id.sameKey x.spot.element.id = false

def Distinct (s : Snapshot) : Prop :=
  ∀ x ∈ s.index, ∀ y ∈ s.index, x.spot.element.id.sameKey y.spot.element.id = true →
    x.spot.steps = y.spot.steps

variable {s : Snapshot} {x y : Entry}

/-- A snapshot that is made has ids that can be looked up. -/
theorem hashable_of_make {root : Element} {edges : List Edge} (h : make root edges = .ok s) :
    s.Hashable := by
  unfold make at h
  split at h
  · cases h
  · rename_i hbad
    cases h
    intro x hx
    have := List.find?_eq_none.1 hbad x.spot.element.id (List.mem_map_of_mem hx)
    simpa using this

theorem Distinct.ownersDiffer (h : s.Distinct) : s.OwnersDiffer := by
  intro x hx y hy habove
  by_contra hsame
  rw [Bool.not_eq_false] at hsame
  exact (Spot.isAbove_iff.1 habove).2 (h y hy x hx hsame).symm

/-- An id finds an entry that has it, and every other one that has it is above
the one that is found or is left earlier. -/
theorem holder?_eq_some {id : Json} (h : s.holder? id = some y) :
    y ∈ s.index ∧ y.spot.element.id.sameKey id = true ∧
      ∀ x ∈ s.index, x.spot.element.id.sameKey id = true → x = y ∨
        x.spot.steps <:+ y.spot.steps ∨ Spot.leaving x.spot.steps < Spot.leaving y.spot.steps := by
  obtain ⟨hkey, later, earlier, hsplit, hlater⟩ := List.find?_eq_some_iff_append.1 h
  have hindex : s.index = earlier.reverse ++ y :: later.reverse := by
    rw [← List.reverse_reverse s.index, hsplit]
    simp
  refine ⟨by simp [hindex], hkey, fun x hx hxkey => ?_⟩
  have hpairs := s.pairwise_index
  rw [hindex, List.pairwise_append] at hpairs
  rw [hindex, List.mem_append, List.mem_cons] at hx
  rcases hx with hx | rfl | hx
  · exact .inr (hpairs.2.2 x hx y List.mem_cons_self)
  · exact .inl rfl
  · have := hlater x (List.mem_reverse.1 hx)
    rw [hxkey] at this
    cases this

theorem exists_holder? (hh : s.Hashable) (hx : x ∈ s.index) :
    ∃ y, s.holder? x.spot.element.id = some y := by
  rw [← Option.isSome_iff_exists, holder?, List.find?_isSome]
  exact ⟨x, List.mem_reverse.2 hx, Json.sameKey_self (hh x hx)⟩

/-- With ids that differ an element finds itself. -/
theorem holder?_of_mem (hh : s.Hashable) (hd : s.Distinct) (hx : x ∈ s.index) :
    s.holder? x.spot.element.id = some x := by
  obtain ⟨y, hy⟩ := exists_holder? hh hx
  obtain ⟨hmem, hkey, -⟩ := holder?_eq_some hy
  rw [hy, eq_of_mem_index hmem hx (hd y hmem x hx hkey)]

/-- What an id finds stands in the index. -/
theorem mem_index_of_find {id : Json} {spot : Spot} (h : s.find id = .ok (some spot)) :
    ∃ x ∈ s.index, x.spot = spot := by
  unfold find at h
  cases hkey : id.asKey with
  | error m =>
    rw [hkey] at h
    cases h
  | ok id =>
    rw [hkey] at h
    change Except.ok (s.find? id) = _ at h
    rw [find?_eq] at h
    obtain ⟨x, hx, rfl⟩ := Option.map_eq_some_iff.1 (Except.ok.inj h)
    exact ⟨x, (holder?_eq_some hx).1, rfl⟩

theorem find_of_mem (hh : s.Hashable) (hd : s.Distinct) (hx : x ∈ s.index) :
    s.find x.spot.element.id = .ok (some x.spot) := by
  rw [find, Json.asKey, if_pos (hh x hx)]
  show Except.ok _ = _
  rw [find?_eq, holder?_of_mem hh hd hx]
  rfl

theorem ownerOf?_of_mem (hh : s.Hashable) (hd : s.Distinct) (hx : x ∈ s.index) :
    s.ownerOf? x.spot.element = x.owner := by
  rw [ownerOf?_eq, holder?_of_mem hh hd hx]
  rfl

theorem exists_owner {o : Spot} (hx : x ∈ s.index) (ho : x.owner = some o) :
    ∃ z ∈ s.index, z.spot = o ∧ x.spot ∈ o.owned := by
  rcases owner_of_mem_index hx with rfl | ⟨z, hz, hxz⟩
  · cases ho
  · obtain ⟨howned, howner⟩ := Entry.mem_owned.1 hxz
    rw [ho] at howner
    cases howner
    exact ⟨z, hz, rfl, howned⟩

/-- The owner of an entry finds an entry that is left later. -/
theorem leaving_lt_of_owner {o : Spot} (hd : s.OwnersDiffer) (hh : s.Hashable)
    (hx : x ∈ s.index) (ho : x.owner = some o) (hy : s.holder? o.element.id = some y) :
    Spot.leaving x.spot.steps < Spot.leaving y.spot.steps := by
  obtain ⟨z, hz, rfl, howned⟩ := exists_owner hx ho
  obtain ⟨hmem, hkey, hlast⟩ := holder?_eq_some hy
  obtain ⟨k, hk⟩ := Spot.steps_of_mem_owned howned
  have hxz : Spot.leaving x.spot.steps < Spot.leaving z.spot.steps := by
    rw [hk]
    exact Spot.leaving_cons_lt k _
  rcases hlast z hz (Json.sameKey_self (hh z hz)) with rfl | hbelow | hlater
  · exact hxz
  · by_cases heq : z.spot.steps = y.spot.steps
    · rwa [← heq]
    · have := hd z hz y hmem (Spot.isAbove_iff.2 ⟨hbelow, heq⟩)
      rw [hkey] at this
      cases this
  · exact hxz.trans hlater

def laterCount (s : Snapshot) (steps : List Nat) : Nat :=
  s.index.countP fun z => Spot.leaving steps < Spot.leaving z.spot.steps

theorem laterCount_lt (hy : y ∈ s.index)
    (h : Spot.leaving x.spot.steps < Spot.leaving y.spot.steps) :
    s.laterCount y.spot.steps < s.laterCount x.spot.steps := by
  obtain ⟨earlier, later, hsplit⟩ := List.append_of_mem hy
  have hmono (es : List Entry) :
      es.countP (fun z => Spot.leaving y.spot.steps < Spot.leaving z.spot.steps) ≤
        es.countP fun z => Spot.leaving x.spot.steps < Spot.leaving z.spot.steps := by
    refine List.countP_mono_left fun z _ hz => ?_
    rw [decide_eq_true_eq] at hz ⊢
    exact h.trans hz
  have hbefore := hmono earlier
  have hafter := hmono later
  rw [laterCount, laterCount, hsplit, List.countP_append, List.countP_append,
    List.countP_cons_of_neg (by simp), List.countP_cons_of_pos (by simpa using h)]
  omega

/-- Owners come to an end within as many steps as there are later entries. -/
theorem ownersUntil_isSome (hd : s.OwnersDiffer) (hh : s.Hashable) (stop : Spot → Bool) {n : Nat}
    {e : Element} (hn : 0 < n)
    (hfuel : ∀ x, s.holder? e.id = some x → s.laterCount x.spot.steps < n) :
    (s.ownersUntil stop n e).isSome = true := by
  induction n generalizing e with
  | zero => cases hn
  | succ n ih =>
    rw [ownersUntil, ownerOf?_eq]
    cases hx : s.holder? e.id with
    | none => rfl
    | some x =>
      cases ho : x.owner with
      | none => simp [ho]
      | some o =>
        simp only [Option.bind_some, ho]
        split
        · rfl
        · obtain ⟨hmem, -, -⟩ := holder?_eq_some hx
          obtain ⟨z, hz, rfl, -⟩ := exists_owner hmem ho
          have hdrop (y : Entry) (hy : s.holder? z.spot.element.id = some y) :
              s.laterCount y.spot.steps < n := by
            have hlater := leaving_lt_of_owner hd hh hmem ho hy
            have hless := laterCount_lt (holder?_eq_some hy).1 hlater
            have hbound := hfuel x hx
            omega
          obtain ⟨y, hy⟩ := exists_holder? hh hz
          rw [Option.isSome_map]
          exact ih (Nat.zero_lt_of_lt (hdrop y hy)) hdrop

theorem ownersWithin_eq_ok {stop : Spot → Bool} {e : Element} {owners : List Element} :
    s.ownersWithin stop e = .ok owners ↔ s.ownersUntil stop (s.index.length + 1) e = some owners := by
  unfold ownersWithin
  cases s.ownersUntil stop (s.index.length + 1) e <;> simp

/-- More steps lead to the same owners. -/
theorem ownersUntil_unique {stop : Spot → Bool} {n m : Nat} {e : Element}
    {owners others : List Element} (h : s.ownersUntil stop n e = some owners)
    (h' : s.ownersUntil stop m e = some others) : owners = others := by
  induction n generalizing m e owners others with
  | zero => cases h
  | succ n ih =>
    cases m with
    | zero => cases h'
    | succ m =>
      rw [ownersUntil] at h h'
      cases ho : s.ownerOf? e with
      | none =>
        simp only [ho] at h h'
        rw [← Option.some.inj h, ← Option.some.inj h']
      | some o =>
        simp only [ho] at h h'
        by_cases hstop : stop o = true
        · rw [if_pos hstop] at h h'
          rw [← Option.some.inj h, ← Option.some.inj h']
        · rw [if_neg hstop, Option.map_eq_some_iff] at h h'
          obtain ⟨rest, hrest, rfl⟩ := h
          obtain ⟨rest', hrest', rfl⟩ := h'
          rw [ih hrest hrest']

theorem exists_ownersWithin (hd : s.OwnersDiffer) (hh : s.Hashable) (stop : Spot → Bool)
    (e : Element) : ∃ owners, s.ownersWithin stop e = .ok owners := by
  have h : (s.ownersUntil stop (s.index.length + 1) e).isSome = true := by
    refine ownersUntil_isSome hd hh stop (Nat.succ_pos _) fun x _ => ?_
    exact Nat.lt_succ_of_le List.countP_le_length
  obtain ⟨owners, h⟩ := Option.isSome_iff_exists.1 h
  exact ⟨owners, ownersWithin_eq_ok.2 h⟩

theorem textsFrom_map_text (position : Nat) (texts : List String) :
    textsFrom position (texts.map .text) = .ok texts := by
  induction texts generalizing position with
  | nil => rfl
  | cons t texts ih =>
    show (textsFrom (position + 1) (texts.map .text)).bind _ = _
    rw [ih]
    rfl

theorem eq_of_textsFrom {position : Nat} {names : List Json} {texts : List String}
    (h : textsFrom position names = .ok texts) : names = texts.map .text := by
  induction names generalizing position texts with
  | nil =>
    cases h
    rfl
  | cons v names ih =>
    cases v with
    | text t =>
      change (textsFrom (position + 1) names).bind _ = _ at h
      cases hrest : textsFrom (position + 1) names with
      | error m =>
        rw [hrest] at h
        cases h
      | ok rest =>
        rw [hrest] at h
        cases h
        rw [ih hrest]
        rfl
    | _ => cases h

/-- A display path has the names of the owners, which are all texts, and that of
the element itself. -/
theorem displayPath_eq_ok {e : Element} {place : String} :
    s.displayPath e = .ok place ↔ ∃ owners texts,
      s.ownersUntil (fun _ => false) (s.index.length + 1) e = some owners ∧
      owners.reverse.map Element.name ++ [e.name] = texts.map .text ∧
      place = "/".intercalate texts := by
  unfold displayPath ancestors ownersWithin
  cases s.ownersUntil (fun _ => false) (s.index.length + 1) e with
  | none => simp [Except.map, bind, Except.bind]
  | some owners =>
    show (textsFrom 0 (owners.reverse.map Element.name ++ [e.name])).bind _ = _ ↔ _
    constructor
    · intro h
      cases htexts : textsFrom 0 (owners.reverse.map Element.name ++ [e.name]) with
      | error m =>
        rw [htexts] at h
        cases h
      | ok texts =>
        rw [htexts] at h
        cases h
        exact ⟨owners, texts, rfl, eq_of_textsFrom htexts, rfl⟩
    · rintro ⟨_, texts, ⟨⟩, hnames, rfl⟩
      rw [hnames, textsFrom_map_text]
      rfl

end UmlPress.Snapshot
