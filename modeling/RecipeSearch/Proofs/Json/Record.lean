import Mathlib.Data.List.Nodup
import RecipeSearch.Proofs.FirstFault
import RecipeSearch.Proofs.Json.Outline

/-!
# Reading a written record

The members of an object that fit the fields of a record (`Fits`) are found in the object, in the order in which they
stand (`Fits.record`): it is only asked that no field is given twice, that none is missing that has to be there, and
that each member passes the check of its field. Members that are written one field after the other fit, where optional
fields may be left out (`Filled.fits`).

What is written for a value is read as the value (`Reads`) by the readers of strings and numbers, and, if it is so for
their parts, by those of lists and of values that may be missing.
-/

namespace RecipeSearch.Json

variable {α β : Type}

/-! ## Members -/

/-- The outlines of members. -/
def found (members : List (String × Json)) : Found :=
  members.map fun m => (m.1, outline m.2)

/-- The field that has a name. -/
def fieldOf (fields : List Field) (name : String) : Option Field :=
  fields.find? (·.name == name)

/-- A member passes the check of its field, or of members without a field. -/
def Passes (fields : List Field) (others : Reader Unit) (m : String × Json) : Prop :=
  match fieldOf fields m.1 with
  | some field => field.check (outline m.2) = .ok ()
  | none => others (outline m.2) = .ok ()

/-- The members are those of a record. -/
structure Fits (fields : List Field) (others : Reader Unit) (members : List (String × Json)) : Prop where
  passes : ∀ m ∈ members, Passes fields others m
  /-- No field is given twice. -/
  once : members.Pairwise fun m m' => m.1 = m'.1 → fieldOf fields m.1 = none
  complete : ∀ field ∈ fields, field.optional = true ∨ field.name ∈ members.map Prod.fst

section Members

variable {fields : List Field} {others : Reader Unit} {members : List (String × Json)}

theorem lookup_found (members : List (String × Json)) (name : String) :
    (found members).lookup name = (members.lookup name).map outline := by
  induction members with
  | nil => rfl
  | cons m ms ih =>
    have hcons : found (m :: ms) = (m.1, outline m.2) :: found ms := rfl
    rw [hcons, List.lookup_cons, List.lookup_cons, ih]
    split <;> rfl

/-- The only value that is given for a name is found. -/
theorem lookup_eq_of_forall {name : String} {v : Json} (hmem : (name, v) ∈ members)
    (hall : ∀ w, (name, w) ∈ members → w = v) : members.lookup name = some v := by
  cases hfind : members.lookup name with
  | none =>
    have hne := List.lookup_eq_none_iff.1 hfind _ hmem
    exact absurd hne (by simp)
  | some w =>
    obtain ⟨before, after, rfl, -⟩ := List.lookup_eq_some_iff.1 hfind
    rw [hall w (by simp)]

theorem mem_of_lookup {name : String} {v : Json} (h : members.lookup name = some v) : (name, v) ∈ members := by
  obtain ⟨before, after, rfl, -⟩ := List.lookup_eq_some_iff.1 h
  simp

section Distinct

variable (hnames : (members.map Prod.fst).Nodup)

include hnames

theorem eq_of_mem_of_mem {name : String} {v w : Json} (hv : (name, v) ∈ members) (hw : (name, w) ∈ members) :
    v = w :=
  congrArg Prod.snd (List.inj_on_of_nodup_map hnames hv hw rfl)

/-- Among members with distinct names a value is found under its name. -/
theorem lookup_eq_some_iff_mem {name : String} {v : Json} : members.lookup name = some v ↔ (name, v) ∈ members :=
  ⟨mem_of_lookup, fun hmem => lookup_eq_of_forall hmem fun _ hw => eq_of_mem_of_mem hnames hw hmem⟩

/-- Members with distinct names are found in whatever order they stand. -/
theorem lookup_perm {sent : List (String × Json)} (h : sent.Perm members) (name : String) :
    sent.lookup name = members.lookup name := by
  have hsent : (sent.map Prod.fst).Nodup := (h.map Prod.fst).nodup_iff.2 hnames
  ext v
  rw [lookup_eq_some_iff_mem hsent, lookup_eq_some_iff_mem hnames, h.mem_iff]

end Distinct

/-- Members of other names do not stand in the way. -/
theorem lookup_filter {p : String × Json → Bool} {name : String} (hp : ∀ v, p (name, v) = true) :
    (members.filter p).lookup name = members.lookup name := by
  induction members with
  | nil => rfl
  | cons m ms ih =>
    obtain ⟨other, v⟩ := m
    rw [List.filter_cons, List.lookup_cons]
    cases heq : name == other with
    | true =>
      cases eq_of_beq heq
      rw [if_pos (hp v), List.lookup_cons_self]
    | false =>
      split
      · rw [List.lookup_cons, heq, ih]
      · exact ih

theorem survey_outlineOfMembers {seen : List String} (hpasses : ∀ m ∈ members, Passes fields others m)
    (honce : members.Pairwise fun m m' => m.1 = m'.1 → fieldOf fields m.1 = none)
    (hseen : ∀ m ∈ members, m.1 ∈ seen → fieldOf fields m.1 = none) :
    (outlineOfMembers members).survey fields others seen = .ok (found members) := by
  induction members generalizing seen with
  | nil => rfl
  | cons m ms ih =>
    obtain ⟨name, v⟩ := m
    obtain ⟨hfirst, hrest⟩ := List.pairwise_cons.1 honce
    have hpass := hpasses _ List.mem_cons_self
    have hpasses' : ∀ m ∈ ms, Passes fields others m := fun m hm => hpasses m (List.mem_cons_of_mem _ hm)
    have hseen' : ∀ m ∈ ms, m.1 ∈ seen → fieldOf fields m.1 = none := fun m hm =>
      hseen m (List.mem_cons_of_mem _ hm)
    rw [outlineOfMembers, Members.survey]
    rw [Passes] at hpass
    cases hfield : fieldOf fields name with
    | none =>
      rw [hfield] at hpass
      rw [fieldOf] at hfield
      rw [hfield]
      simp only [hpass, ih hpasses' hrest hseen']
      rfl
    | some field =>
      have hnew : ¬ seen.contains name = true := by
        intro hmem
        have hnone := hseen _ List.mem_cons_self (List.contains_iff_mem.1 hmem)
        rw [hfield] at hnone
        cases hnone
      have hnext : ∀ m ∈ ms, m.1 ∈ name :: seen → fieldOf fields m.1 = none := by
        intro m hm hmem
        rcases List.mem_cons.1 hmem with heq | hmem
        · rw [heq]
          exact hfirst m hm heq.symm
        · exact hseen' m hm hmem
      rw [hfield] at hpass
      rw [fieldOf] at hfield
      rw [hfield]
      simp only [hnew, hpass, ih hpasses' hrest hnext]
      rfl

/-- **The members of a record are found** as they stand in the object. -/
theorem Fits.record (h : Fits fields others members) :
    (outlineOfMembers members).record fields others = .ok (found members) := by
  have hsurvey : (outlineOfMembers members).survey fields others [] = .ok (found members) :=
    survey_outlineOfMembers h.passes h.once nofun
  have hall : (fields.all fun field => field.optional || ((found members).lookup field.name).isSome) = true := by
    rw [List.all_eq_true]
    intro field hfield
    rcases h.complete field hfield with hoptional | hname
    · rw [hoptional, Bool.true_or]
    · have hsome : ((found members).lookup field.name).isSome = true := by
        rw [lookup_found, Option.isSome_map, List.lookup_isSome_iff]
        obtain ⟨m, hm, heq⟩ := List.mem_map.1 hname
        exact ⟨m, hm, by simp [heq]⟩
      rw [hsome, Bool.or_true]
  rw [Members.record, hsurvey, ok_bind, if_pos hall]
  rfl

end Members

/-! ## Members in the order of the fields -/

/-- The members are values of the fields, one after the other, where optional fields may be left out. -/
inductive Filled : List Field → List (String × Json) → Prop
  | nil : Filled [] []
  | given {field : Field} {fields : List Field} {v : Json} {members : List (String × Json)} :
      field.check (outline v) = .ok () → Filled fields members →
      Filled (field :: fields) ((field.name, v) :: members)
  | leftOut {field : Field} {fields : List Field} {members : List (String × Json)} :
      field.optional = true → Filled fields members → Filled (field :: fields) members

section Filled

variable {fields : List Field} {members : List (String × Json)}

theorem Filled.sublist (h : Filled fields members) : (members.map Prod.fst).Sublist (fields.map Field.name) := by
  induction h with
  | nil => exact .slnil
  | given _ _ ih => exact ih.cons_cons _
  | leftOut _ _ ih => exact ih.cons _

theorem Filled.exists_field (h : Filled fields members) {m : String × Json} (hm : m ∈ members) :
    ∃ field ∈ fields, field.name = m.1 ∧ field.check (outline m.2) = .ok () := by
  induction h with
  | nil => cases hm
  | given hcheck _ ih =>
    rcases List.mem_cons.1 hm with rfl | hm
    · exact ⟨_, List.mem_cons_self, rfl, hcheck⟩
    · obtain ⟨field, hfield, hrest⟩ := ih hm
      exact ⟨field, List.mem_cons_of_mem _ hfield, hrest⟩
  | leftOut _ _ ih =>
    obtain ⟨field, hfield, hrest⟩ := ih hm
    exact ⟨field, List.mem_cons_of_mem _ hfield, hrest⟩

theorem Filled.complete (h : Filled fields members) :
    ∀ field ∈ fields, field.optional = true ∨ field.name ∈ members.map Prod.fst := by
  induction h with
  | nil => nofun
  | given _ _ ih =>
    intro field hfield
    rcases List.mem_cons.1 hfield with rfl | hfield
    · exact .inr List.mem_cons_self
    · exact (ih field hfield).imp_right (List.mem_cons_of_mem _)
  | leftOut hoptional _ ih =>
    intro field hfield
    rcases List.mem_cons.1 hfield with rfl | hfield
    · exact .inl hoptional
    · exact ih field hfield

/-- The field of a name is the one with this name, if no two fields share a name. -/
theorem fieldOf_of_mem (hnames : (fields.map Field.name).Nodup) {field : Field} (h : field ∈ fields) :
    fieldOf fields field.name = some field := by
  induction fields with
  | nil => cases h
  | cons first fields ih =>
    rw [List.map_cons, List.nodup_cons] at hnames
    rw [fieldOf, List.find?_cons]
    rcases List.mem_cons.1 h with rfl | h
    · rw [beq_self_eq_true]
    · have hne : (first.name == field.name) = false := by
        rw [beq_eq_false_iff_ne]
        intro heq
        exact hnames.1 (heq ▸ List.mem_map_of_mem h)
      rw [hne]
      exact ih hnames.2 h

/-- Members that are written one field after the other are those of a record. -/
theorem Filled.fits (h : Filled fields members) (hnames : (fields.map Field.name).Nodup) (others : Reader Unit) :
    Fits fields others members where
  passes m hm := by
    obtain ⟨field, hfield, hname, hcheck⟩ := h.exists_field hm
    rw [Passes, ← hname, fieldOf_of_mem hnames hfield]
    exact hcheck
  once := by
    have hpairwise := List.pairwise_map.1 (hnames.sublist h.sublist)
    exact hpairwise.imp fun hne heq => absurd heq hne
  complete := h.complete

/-- A record is found in an object that is written one field after the other. -/
theorem Filled.record (h : Filled fields members) (hnames : (fields.map Field.name).Nodup) :
    Reader.record fields (outline (.object members)) = .ok (found members) :=
  (h.fits hnames Reader.skip).record

end Filled

/-! ## Values -/

/-- What is written for a value is read as this value. -/
def Reads (reader : Reader α) (toJson : α → Json) (a : α) : Prop :=
  reader (outline (toJson a)) = .ok a

section Reads

variable {reader : Reader α} {toJson : α → Json}

theorem Reads.eq {a : α} (h : Reads reader toJson a) : reader (outline (toJson a)) = .ok a := h

theorem reads_string (s : String) : Reads Reader.string Json.string s := rfl

theorem reads_nat {n : Nat} (h : n < Numeral.wordBound) : Reads Reader.nat Json.nat n := by
  rw [Reads, Json.nat, outline, Reader.nat, Numeral.nat?_ofNat h]

/-- The items of a list are read one by one. -/
theorem list_outline_map {f : β → Json} {g : β → α} {bs : List β}
    (h : ∀ b ∈ bs, reader (outline (f b)) = .ok (g b)) :
    Reader.list reader (outline (.array (bs.map f))) = .ok (bs.map g) := by
  rw [outline, Reader.list]
  induction bs with
  | nil => rfl
  | cons b bs ih =>
    have hbs := ih fun c hc => h c (List.mem_cons_of_mem _ hc)
    rw [List.map_cons, outlineOfItems, Reader.items, h b List.mem_cons_self, ok_bind, hbs]
    rfl

/-- A list is read if its items are. -/
theorem reads_list {as : List α} (h : ∀ a ∈ as, Reads reader toJson a) :
    Reads (Reader.list reader) (fun as => .array (as.map toJson)) as := by
  have hlist := list_outline_map h
  rwa [List.map_id'] at hlist

theorem reads_strings (ss : List String) : Reads (Reader.list Reader.string) Json.strings ss :=
  reads_list fun s _ => reads_string s

theorem orNull_of_ne {v : Json} (h : v ≠ .null) (reader : Reader α) :
    Reader.orNull reader (outline v) = (reader (outline v)).map some := by
  cases v with
  | null => exact absurd rfl h
  | _ => rfl

/-- A value that may be missing is read if it is when it is there, where it is not written as `null`. -/
theorem reads_orNull {a? : Option α} (h : ∀ a ∈ a?, Reads reader toJson a) (hne : ∀ a, toJson a ≠ .null) :
    Reads (Reader.orNull reader) (Json.orNull toJson) a? := by
  cases a? with
  | none => rfl
  | some a =>
    rw [Reads, Json.orNull, orNull_of_ne (hne a), (h a rfl).eq]
    rfl

end Reads

/-- What is read from a text is read from an outline. -/
theorem exists_of_read {reader : Reader α} {text : List Char} {a : α} (h : read reader text = .ok a) :
    ∃ o, reader o = .ok a := by
  rw [read] at h
  generalize Outline.ofTokens (lex text) = spelled at h
  obtain ⟨o, rest⟩ := spelled
  obtain ⟨b, hb, h⟩ := eq_ok_of_bind h
  split at h
  · cases h
    exact ⟨_, hb⟩
  · cases h

/-! ## Fields -/

section Fields

variable {reader : Reader α} {o : Outline} {a : α}

theorem check_required (name : String) (h : reader o = .ok a) : (Field.required name reader).check o = .ok () :=
  congrArg (Except.map fun _ => ()) h

theorem check_nullable (name : String) {a? : Option α} (h : Reader.orNull reader o = .ok a?) :
    (Field.nullable name reader).check o = .ok () :=
  congrArg (Except.map fun _ => ()) h

theorem check_defaulted (name : String) (h : reader o = .ok a) : (Field.defaulted name reader).check o = .ok () :=
  congrArg (Except.map fun _ => ()) h

/-- A number that is found fits 64 bits. -/
theorem get_nat_lt {found : Found} {name : String} {n : Nat} (h : found.get name Reader.nat = .ok n) :
    n < Numeral.wordBound := by
  rw [Found.get] at h
  split at h
  · next o _ =>
    cases o with
    | number k =>
      rw [Reader.nat] at h
      split at h
      · next hk =>
        cases h
        exact Numeral.lt_of_nat? hk
      · cases h
    | _ => cases h
  · cases h

end Fields

end RecipeSearch.Json
