import DiskQuota.Proofs.Json.Decides
import Mathlib.Data.List.Nodup

/-!
Objects by their fields. A record is read from an object by a table of its fields: each has a name, a place in
what has been given so far, and a reader of its values. A member with the name of a field fills that in, once
at most, and others are passed over. So what an object gives is a function of the values that stand under
the names of the fields (`FieldTable.foldlM_step_iff`), whatever else it holds and in whatever order.
-/
namespace DiskQuota.Json

open Reader (Decides DecidesField EndsValue run?_bind run?_of_run)

/-- The values that stand under a name, in order. -/
def valuesOf (name : String) (ms : List (String × Source)) : List Source :=
  (ms.filter fun m => m.1 = name).map (·.2)

theorem valuesOf_cons (name key : String) (v : Source) (ms : List (String × Source)) :
    valuesOf name ((key, v) :: ms) =
      if key = name then v :: valuesOf name ms else valuesOf name ms := by
  by_cases h : key = name <;> simp [valuesOf, h]

/-! ## One field -/

section

variable {α : Type}

/-- A field that has not been given is given what the value means to it. -/
def fill (old : Option α) (meaning : Option α) : Option α :=
  match old with
  | some _ => none
  | none => meaning

/-- What a field is given by its values, one after the other. -/
def filled (meaning : Source → Option α) : Option α → List Source → Option (Option α)
  | old, [] => some old
  | old, v :: vs => (fill old (meaning v)).bind fun a => filled meaning (some a) vs

theorem filled_none_iff (meaning : Source → Option α) (vs : List Source) (o : Option α) :
    filled meaning none vs = some o ↔
      vs.length ≤ 1 ∧ (∀ v ∈ vs, (meaning v).isSome = true) ∧ vs.head?.bind meaning = o := by
  match vs with
  | [] => simp [filled]
  | [v] => cases h : meaning v <;> simp [filled, fill, h]
  | v :: w :: vs => cases h : meaning v <;> simp [filled, fill, h]

/-- A field that has to be given is so once, in a value that is it. -/
theorem filled_some_iff (meaning : Source → Option α) (vs : List Source) (a : α) :
    filled meaning none vs = some (some a) ↔ ∃ v, vs = [v] ∧ meaning v = some a := by
  rw [filled_none_iff]
  match vs with
  | [] => simp
  | [v] => cases h : meaning v <;> simp [h]
  | v :: w :: vs => simp

theorem once_run? {x : Reader α} {meaning : Source → Option α} (hx : Decides x meaning)
    (name : String) (old : Option α) (v : Source) (colon between : Space) {rest : List Char}
    (hrest : EndsValue rest) : (Reader.once name old x).run?
      (colon.chars ++ ':' :: (between.chars ++ (v.chars ++ rest))) =
        (fill old (meaning v)).map (·, rest) := by
  cases old with
  | some _ => rfl
  | none =>
    rw [Reader.once, run?_bind, run?_of_run (Reader.colon_run colon _), Option.bind_some,
      hx v between rest hrest]
    rfl

end

/-- A member that is passed over, after its key. -/
theorem skipMember_run? {β : Type} (b : β) (v : Source) (colon between : Space) {rest : List Char}
    (hrest : EndsValue rest) : (do Reader.skipMember; return b : Reader β).run?
      (colon.chars ++ ':' :: (between.chars ++ (v.chars ++ rest))) = some (b, rest) := by
  rw [Reader.skipMember, run?_bind, run?_bind, run?_of_run (Reader.colon_run colon _),
    Option.bind_some, run?_of_run (Reader.ignore_run v between hrest)]
  rfl

/-- A field of what is given as `G`. -/
structure RecordField (G : Type) where
  {Value : Type}
  name : String
  get : G → Option Value
  set : G → Value → G
  reader : Reader Value
  meaning : Source → Option Value
  decides : Decides reader meaning
  get_set : ∀ g a, get (set g a) = some a

/-- Fields that make up what is given, none of which says anything about another. -/
structure FieldTable (G : Type) where
  fields : List (RecordField G)
  nodup : (fields.map RecordField.name).Nodup
  apart : ∀ f ∈ fields, ∀ f' ∈ fields, f.name ≠ f'.name → ∀ g a, f'.get (f.set g a) = f'.get g
  ext : ∀ g g', (∀ f ∈ fields, f.get g = f.get g') → g = g'

namespace FieldTable

variable {G : Type} (t : FieldTable G)

/-- The field of a name. -/
def find? (key : String) : Option (RecordField G) := t.fields.find? fun f => f.name = key

/-- Reads a member after its key. -/
def field (g : G) (key : String) : Reader G :=
  match t.find? key with
  | some f => do return f.set g (← Reader.once key (f.get g) f.reader)
  | none => do
    Reader.skipMember
    return g

/-- A member taken to what has been given before. -/
def step (g : G) (key : String) (v : Source) : Option G :=
  match t.find? key with
  | some f => (fill (f.get g) (f.meaning v)).map (f.set g)
  | none => some g

theorem decides_field : DecidesField t.field t.step := by
  intro g key v colon between rest hrest
  rw [field, step]
  cases t.find? key with
  | none =>
    simp only
    rw [skipMember_run? g v colon between hrest, Option.map_some]
  | some f =>
    simp only
    rw [run?_bind, once_run? f.decides key (f.get g) v colon between hrest]
    cases fill (f.get g) (f.meaning v) <;> rfl

variable {t}

theorem find?_eq_some {key : String} {f : RecordField G} (h : t.find? key = some f) :
    f ∈ t.fields ∧ f.name = key := by
  have hname := List.find?_some h
  exact ⟨List.mem_of_find?_eq_some h, of_decide_eq_true hname⟩

theorem name_ne_of_find?_eq_none {key : String} (h : t.find? key = none) :
    ∀ f ∈ t.fields, key ≠ f.name := by
  intro f hf heq
  have hnot := List.find?_eq_none.1 h f hf
  exact hnot (decide_eq_true heq.symm)

theorem eq_of_name_eq {f f' : RecordField G} (hf : f ∈ t.fields) (hf' : f' ∈ t.fields)
    (h : f.name = f'.name) : f = f' := List.inj_on_of_nodup_map t.nodup hf hf' h

/-- The fields are filled in apart from each other. -/
theorem foldlM_step_iff (ms : List (String × Source)) (g g' : G) :
    ms.foldlM (fun g m => t.step g m.1 m.2) g = some g' ↔
      ∀ f ∈ t.fields, filled f.meaning (f.get g) (valuesOf f.name ms) = some (f.get g') := by
  induction ms generalizing g with
  | nil =>
    rw [List.foldlM_nil]
    constructor
    · intro h f _
      cases h
      rfl
    · intro h
      have heq : g = g' := t.ext g g' fun f hf => Option.some.inj (h f hf)
      rw [heq]
      rfl
  | cons m ms ih =>
    obtain ⟨key, v⟩ := m
    rw [List.foldlM_cons]
    cases hfind : t.find? key with
    | none =>
      have hstep : t.step g key v = some g := by rw [step, hfind]
      have hvalues : ∀ f ∈ t.fields, valuesOf f.name ((key, v) :: ms) = valuesOf f.name ms := by
        intro f hf
        rw [valuesOf_cons, if_neg (name_ne_of_find?_eq_none hfind f hf)]
      rw [hstep]
      refine (ih g).trans (forall₂_congr fun f hf => ?_)
      rw [hvalues f hf]
    | some f =>
      obtain ⟨hf, rfl⟩ := find?_eq_some hfind
      have hstep : t.step g f.name v = (fill (f.get g) (f.meaning v)).map (f.set g) := by
        rw [step, hfind]
      rw [hstep]
      cases hfill : fill (f.get g) (f.meaning v) with
      | none =>
        constructor
        · intro h
          cases h
        · intro h
          have hnone := h f hf
          rw [valuesOf_cons, if_pos rfl, filled, hfill] at hnone
          cases hnone
      | some a =>
        refine (ih (f.set g a)).trans (forall₂_congr fun f' hf' => ?_)
        by_cases hname : f.name = f'.name
        · obtain rfl := eq_of_name_eq hf hf' hname
          rw [valuesOf_cons, if_pos rfl, filled, hfill, f.get_set]
          rfl
        · rw [valuesOf_cons, if_neg hname, t.apart f hf f' hf' hname]

end FieldTable
end DiskQuota.Json
