import EngineClient.Operations
import Mathlib.Data.List.Forall2

/-!
# What answers describe

An answer lists values, each of which should describe a resource or a proposal. What a
value describes is stated here field by field, apart from the readers, and each reader is
shown to give exactly that. An answer is read one for one, or it fails as a whole: iff it
lists nothing or some value that it lists describes nothing.
-/

namespace EngineClient

/-!
## Fields

A field holds a text as characters, or as octets in UTF-8.
-/

inductive HoldsText : Value -> String -> Prop where
  | text (s : String) : HoldsText (.text s) s
  | octets {bs : List UInt8} {s : String} (h : Text.Utf8.decodeText bs = .ok s) :
      HoldsText (.octets bs) s

inductive HoldsText? : Option Value -> Option String -> Prop where
  | missing : HoldsText? none none
  | null : HoldsText? (some .null) none
  | text {v : Value} {s : String} (h : HoldsText v s) : HoldsText? (some v) (some s)

theorem readTextField_eq_ok_iff {field s : String} {v : Value} :
    readTextField field v = .ok s ↔ HoldsText v s := by
  constructor
  · intro h
    cases v with
    | text t =>
        cases h
        exact .text s
    | octets bs =>
        cases hbs : Text.Utf8.decodeText bs with
        | ok t =>
            simp only [readTextField, hbs] at h
            cases h
            exact .octets hbs
        | error f =>
            simp only [readTextField, hbs] at h
            cases h
    | _ => cases h
  · intro h
    cases h with
    | text => rfl
    | octets h => simp [readTextField, h]

theorem requiredField_eq_ok_iff {v? : Option Value} {field s : String} {p : Problem} :
    (match v? with
      | some v => readTextField field v
      | none => .error p) = .ok s ↔ exists v, v? = some v ∧ HoldsText v s := by
  constructor
  · intro h
    cases v? with
    | none => cases h
    | some v => exact ⟨v, rfl, readTextField_eq_ok_iff.mp h⟩
  · rintro ⟨v, rfl, h⟩
    exact readTextField_eq_ok_iff.mpr h

theorem readOptionalField_eq_ok_iff {entries : Table} {field : String} {s? : Option String} :
    readOptionalField entries field = .ok s? ↔ HoldsText? (entries.get? field) s? := by
  have hread : forall {v : Value}, v ≠ .null ->
      ((readTextField field v).map some = .ok s? ↔ HoldsText? (some v) s?) := by
    intro v hv
    constructor
    · intro h
      cases hs : readTextField field v with
      | error p =>
          rw [hs] at h
          cases h
      | ok s =>
          rw [hs] at h
          cases h
          exact .text (readTextField_eq_ok_iff.mp hs)
    · intro h
      cases h with
      | null => exact absurd rfl hv
      | text h =>
          rw [readTextField_eq_ok_iff.mpr h]
          rfl
  unfold readOptionalField
  cases entries.get? field with
  | none =>
      constructor
      · intro h
        cases h
        exact .missing
      · intro h
        cases h
        rfl
  | some v =>
      cases v with
      | null =>
          constructor
          · intro h
            cases h
            exact .null
          · intro h
            cases h with
            | null => rfl
            | text h => cases h
      | _ => exact hread (by simp)

theorem Table.get?_erase_of_ne (t : Table) {key other : String} (hne : key ≠ other) :
    (t.erase key).get? other = t.get? other := by
  have hkeep : forall k : Key,
      ((!Key.same (.text key) k) && Key.same (.text other) k) = Key.same (.text other) k := by
    intro k
    cases k with
    | text s =>
        by_cases hs : other = s
        · subst hs
          simp [hne]
        · simp [hs]
    | _ => simp [Key.same, Key.number?]
  simp [get?, erase, List.find?_filter, hkeep]

/-!
## Resources

A table gives the kind of a resource by name, or by a flag, or else it is a file.
-/

namespace Resource

inductive HasKind (entries : Table) : ResourceKind -> Prop where
  | named {v : Value} {k : ResourceKind} (kind : entries.get? "kind" = some v)
      (name : HoldsText v k.name) : HasKind entries k
  | flagged {v : Value} (kindless : entries.get? "kind" = none)
      (flag : entries.get? "is_folder" = some v) : HasKind entries (.ofFlag v.isTrue)
  | plain (kindless : entries.get? "kind" = none) (flagless : entries.get? "is_folder" = none) :
      HasKind entries .file

inductive Describes : Value -> Resource -> Prop where
  | path (s : String) : Describes (.text s) (ofPathText s)
  | table {entries : Table} {v : Value} {r : Resource} (entry : entries.get? "path" = some v)
      (path : HoldsText v r.path) (kind : HasKind entries r.kind) : Describes (.table entries) r

theorem get?_path_kindSource (entries : Table) :
    (kindSource entries).1.get? "path" = entries.get? "path" := by
  unfold kindSource
  split
  · rfl
  · exact Table.get?_erase_of_ne entries (by decide)
  · rfl

theorem kindOfValue?_eq_some_iff {v : Value} {k : ResourceKind} :
    kindOfValue? v = some k ↔ HoldsText v k.name := by
  have hname : forall s : String, ResourceKind.ofName? s = some k ↔ s = k.name := by
    intro s
    constructor
    · intro h
      unfold ResourceKind.ofName? at h
      split at h
      · cases h
        rfl
      · cases h
        rfl
      · cases h
    · rintro rfl
      exact ResourceKind.ofName?_name k
  constructor
  · intro h
    cases v with
    | text s =>
        rw [(hname s).mp h]
        exact .text _
    | octets bs =>
        simp only [kindOfValue?] at h
        cases hbs : Text.Utf8.decodeText bs with
        | error f =>
            rw [hbs] at h
            cases h
        | ok s =>
            rw [hbs] at h
            rw [(hname s).mp h] at hbs
            exact .octets hbs
    | _ => cases h
  · intro h
    cases h with
    | text => exact ResourceKind.ofName?_name k
    | octets h =>
        simp only [kindOfValue?, h]
        exact ResourceKind.ofName?_name k

theorem readKind_eq_ok_iff {entries : Table} {k : ResourceKind} :
    readKind (kindSource entries).2 = .ok k ↔ HasKind entries k := by
  constructor
  · intro h
    unfold kindSource at h
    split at h
    · rename_i v hkind
      cases hv : kindOfValue? v with
      | none =>
          simp only [readKind, hv] at h
          cases h
      | some k' =>
          simp only [readKind, hv] at h
          cases h
          exact .named hkind (kindOfValue?_eq_some_iff.mp hv)
    · rename_i v hkind hflag
      cases h
      exact .flagged hkind hflag
    · rename_i hkind hflag
      cases h
      exact .plain hkind hflag
  · intro h
    cases h with
    | named hkind hname =>
        have hv := kindOfValue?_eq_some_iff.mpr hname
        simp [kindSource, hkind, readKind, hv]
    | flagged hkind hflag => simp [kindSource, hkind, hflag, readKind]
    | plain hkind hflag => simp [kindSource, hkind, hflag, readKind]

theorem readPath_eq_ok_iff {entries : Table} {source : KindSource} {path : String} :
    readPath entries source = .ok path ↔
      exists v, entries.get? "path" = some v ∧ HoldsText v path :=
  requiredField_eq_ok_iff

theorem ofTable_eq_ok_iff {entries : Table} {r : Resource} :
    ofTable entries = .ok r ↔
      readPath (kindSource entries).1 (kindSource entries).2 = .ok r.path ∧
        readKind (kindSource entries).2 = .ok r.kind := by
  unfold ofTable
  dsimp only
  constructor
  · intro h
    split at h
    · rename_i path kind hpath hkind
      cases h
      exact ⟨hpath, hkind⟩
    · cases h
  · rintro ⟨hpath, hkind⟩
    rw [hpath, hkind]

theorem read_eq_ok_iff {v : Value} {r : Resource} : read v = .ok r ↔ Describes v r := by
  have hvalue : read v = .ok r ↔ ofValue v = .ok r := by
    unfold read
    cases ofValue v <;> simp [Except.mapError]
  rw [hvalue]
  constructor
  · intro h
    cases v with
    | text s =>
        cases h
        exact .path s
    | table entries =>
        rcases ofTable_eq_ok_iff.mp h with ⟨hpath, hkind⟩
        rcases readPath_eq_ok_iff.mp hpath with ⟨v, hv, hholds⟩
        rw [get?_path_kindSource] at hv
        exact .table hv hholds (readKind_eq_ok_iff.mp hkind)
    | _ => cases h
  · intro h
    cases h with
    | path s => rfl
    | table hv hholds hkind =>
        rw [← get?_path_kindSource] at hv
        exact ofTable_eq_ok_iff.mpr
          ⟨readPath_eq_ok_iff.mpr ⟨_, hv, hholds⟩, readKind_eq_ok_iff.mpr hkind⟩

end Resource

/-!
## Proposals
-/

namespace Proposal

inductive Describes : Value -> Proposal -> Prop where
  | table {entries : Table} {v : Value} {p : Proposal} (entry : entries.get? "name" = some v)
      (name : HoldsText v p.name)
      (documentation : HoldsText? (entries.get? "documentation") p.documentation?)
      (scope : HoldsText? (entries.get? "scope") p.scope?)
      (type : HoldsText? (entries.get? "type") p.type?) : Describes (.table entries) p

theorem readName_eq_ok_iff {entries : Table} {name : String} :
    readName entries = .ok name ↔ exists v, entries.get? "name" = some v ∧ HoldsText v name :=
  requiredField_eq_ok_iff

theorem ofTable_eq_ok_iff {entries : Table} {p : Proposal} :
    ofTable entries = .ok p ↔
      readName entries = .ok p.name ∧
        readOptionalField entries "documentation" = .ok p.documentation? ∧
        readOptionalField entries "scope" = .ok p.scope? ∧
        readOptionalField entries "type" = .ok p.type? := by
  unfold ofTable
  dsimp only
  constructor
  · intro h
    split at h
    · rename_i hname hdocumentation hscope htype
      cases h
      exact ⟨hname, hdocumentation, hscope, htype⟩
    · cases h
  · rintro ⟨hname, hdocumentation, hscope, htype⟩
    rw [hname, hdocumentation, hscope, htype]

theorem read_eq_ok_iff {v : Value} {p : Proposal} : read v = .ok p ↔ Describes v p := by
  have hvalue : read v = .ok p ↔ ofValue v = .ok p := by
    unfold read
    cases ofValue v <;> simp [Except.mapError]
  rw [hvalue]
  constructor
  · intro h
    cases v with
    | table entries =>
        rcases ofTable_eq_ok_iff.mp h with ⟨hname, hdocumentation, hscope, htype⟩
        rcases readName_eq_ok_iff.mp hname with ⟨v, hv, hholds⟩
        exact .table hv hholds (readOptionalField_eq_ok_iff.mp hdocumentation)
          (readOptionalField_eq_ok_iff.mp hscope) (readOptionalField_eq_ok_iff.mp htype)
    | _ => cases h
  · intro h
    cases h with
    | table hv hholds hdocumentation hscope htype =>
        exact ofTable_eq_ok_iff.mpr
          ⟨readName_eq_ok_iff.mpr ⟨_, hv, hholds⟩, readOptionalField_eq_ok_iff.mpr hdocumentation,
            readOptionalField_eq_ok_iff.mpr hscope, readOptionalField_eq_ok_iff.mpr htype⟩

end Proposal

/-!
## Items

An answer lists the items of a list or of a tuple; null lists none.
-/

inductive Value.Lists : Value -> List Value -> Prop where
  | null : Lists .null []
  | list (vs : List Value) : Lists (.list vs) vs
  | tuple (vs : List Value) : Lists (.tuple vs) vs

theorem Value.Lists.unique {v : Value} {vs vs' : List Value} (h : v.Lists vs)
    (h' : v.Lists vs') : vs' = vs := by
  cases h <;> cases h' <;> rfl

def Fault.IsFailureOf (f : Fault) (command : String) : Prop :=
  exists e arguments,
    f.clientError? = some e ∧ e.kind = .transportFailure arguments ∧ e.command? = some command

theorem History.items_of_lists {v : Value} {vs : List Value} (h : v.Lists vs) (command : String) :
    items command v = .ok vs := by
  cases h <;> rfl

theorem History.isFailureOf_of_items {command : String} {v : Value} {f : Fault}
    (h : items command v = .error f) : f.IsFailureOf command := by
  cases v with
  | null => cases h
  | list vs => cases h
  | tuple vs => cases h
  | _ =>
      cases h
      exact ⟨_, _, rfl, rfl, rfl⟩

/-- An answer that lists nothing has no items. -/
theorem History.items_of_other {v : Value} (h : forall vs, ¬ v.Lists vs) (command : String) :
    exists f, items command v = .error f := by
  cases v with
  | null => exact absurd .null (h [])
  | list vs => exact absurd (.list vs) (h vs)
  | tuple vs => exact absurd (.tuple vs) (h vs)
  | _ => exact ⟨_, rfl⟩

namespace Operations

variable {α : Type} {read : Value -> Except Fault α}

theorem readItems_eq_ok_iff {vs : List Value} {as : List α} :
    readItems read vs = .ok as ↔ List.Forall₂ (fun v a => read v = .ok a) vs as := by
  induction vs generalizing as with
  | nil =>
      constructor
      · intro h
        cases h
        exact .nil
      · intro h
        cases h
        rfl
  | cons v vs ih =>
      constructor
      · intro h
        cases hv : read v with
        | error f =>
            simp only [readItems, hv] at h
            cases h
        | ok a =>
            cases hvs : readItems read vs with
            | error f =>
                simp only [readItems, hv, hvs] at h
                cases h
            | ok as' =>
                simp only [readItems, hv, hvs] at h
                cases h
                exact .cons hv (ih.mp hvs)
      · intro h
        cases h with
        | cons hv hvs =>
            simp only [readItems, hv, ih.mpr hvs]
            rfl

theorem readItems_eq_error {vs : List Value} {f : Fault} (h : readItems read vs = .error f) :
    exists v, v ∈ vs ∧ read v = .error f := by
  induction vs with
  | nil => cases h
  | cons v vs ih =>
      cases hv : read v with
      | error g =>
          simp only [readItems, hv] at h
          cases h
          exact ⟨v, List.mem_cons_self, hv⟩
      | ok a =>
          cases hvs : readItems read vs with
          | error g =>
              simp only [readItems, hv, hvs] at h
              cases h
              rcases ih hvs with ⟨u, hu, hread⟩
              exact ⟨u, List.mem_cons_of_mem v hu, hread⟩
          | ok as =>
              simp only [readItems, hv, hvs] at h
              cases h

theorem isFailureOf_of_readAnswer {what command : String} {answer : Value} {f : Fault}
    (h : readAnswer what command read answer = .error f) : f.IsFailureOf command := by
  unfold readAnswer at h
  split at h
  · rename_i g hitems
    cases h
    exact History.isFailureOf_of_items hitems
  · rename_i vs hitems
    cases hread : readItems read vs with
    | ok as =>
        rw [hread] at h
        cases h
    | error g =>
        rw [hread] at h
        cases h
        exact ⟨_, _, rfl, rfl, rfl⟩

def Misfits (describes : Value -> α -> Prop) (answer : Value) : Prop :=
  forall vs, answer.Lists vs -> exists v, v ∈ vs ∧ forall a, ¬ describes v a

theorem readAnswer_one_for_one {describes : Value -> α -> Prop}
    (hread : forall v a, read v = .ok a ↔ describes v a) (what command : String)
    (answer : Value) :
    (¬ Misfits describes answer ∧
      exists vs as,
        answer.Lists vs ∧ List.Forall₂ describes vs as ∧
          readAnswer what command read answer = .ok as) ∨
      Misfits describes answer ∧
        exists f, readAnswer what command read answer = .error f ∧ f.IsFailureOf command := by
  by_cases hlists : exists vs, answer.Lists vs
  · rcases hlists with ⟨vs, hvs⟩
    cases hitems : readItems read vs with
    | ok as =>
        left
        have hall : List.Forall₂ describes vs as :=
          (readItems_eq_ok_iff.mp hitems).imp fun v a => (hread v a).mp
        constructor
        · intro hmisfits
          rcases hmisfits vs hvs with ⟨v, hv, hnone⟩
          rcases List.mem_iff_getElem.mp hv with ⟨i, hi, rfl⟩
          exact hnone _ ((List.forall₂_iff_get.mp hall).2 i hi (by rwa [← hall.length_eq]))
        · refine ⟨vs, as, hvs, hall, ?_⟩
          simp only [readAnswer, History.items_of_lists hvs, hitems, Except.mapError]
    | error f =>
        right
        rcases readItems_eq_error hitems with ⟨v, hv, hfault⟩
        constructor
        · intro us hus
          rw [hvs.unique hus]
          refine ⟨v, hv, ?_⟩
          intro a hdescribes
          rw [(hread v a).mpr hdescribes] at hfault
          cases hfault
        · have hrun : readAnswer what command read answer =
              .error (malformed what command f) := by
            simp only [readAnswer, History.items_of_lists hvs, hitems, Except.mapError]
          exact ⟨_, hrun, isFailureOf_of_readAnswer hrun⟩
  · right
    have hother : forall vs, ¬ answer.Lists vs := fun vs hvs => hlists ⟨vs, hvs⟩
    rcases History.items_of_other hother command with ⟨f, hitems⟩
    constructor
    · intro vs hvs
      exact absurd hvs (hother vs)
    · have hrun : readAnswer what command read answer = .error f := by
        simp only [readAnswer, hitems]
      exact ⟨f, hrun, isFailureOf_of_readAnswer hrun⟩

end Operations
end EngineClient
