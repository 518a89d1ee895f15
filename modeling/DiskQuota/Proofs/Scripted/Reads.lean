import DiskQuota.Proofs.Scripted.FirstFailure
import Mathlib.Data.List.Find

/-!
The two ways to read a quota agree. A description asks for the limit in between and is otherwise a query of
the use: leave out the outcome that fell to the reading of the limit, and a query from the same state makes
the same calls without that one and answers what the description tells of the use (`ReadsAgree`). The headline
`reads_agree` adds what happens where the limit cannot be read.
-/
namespace DiskQuota.Scripted

/-- Whether a call reads the limit of a record. -/
def Call.readsLimit : Call → Bool
  | .limit _ => true
  | _ => false

/-- The state without the outcome that fell to the reading of a limit, given the calls that took outcomes
from it. -/
def State.sparing (s : State) (asked : List (Call × Outcome)) : State :=
  match asked.findIdx? fun x => x.1.readsLimit with
  | some i => { s with outcomes := s.outcomes.eraseIdx i }
  | none => s

/-- The calls that the description of a quota makes and that can fail, each with the outcome that falls to
it. -/
def describing (settings : Settings) (volume : String) (s : State) : List (Call × Outcome) :=
  exchanges Call.asks .success s.outcomes (calls (service.describeQuota settings volume s).trace)

/-- What a description tells of the use. -/
def described : Option Snapshot → Usage
  | none => .notConfigured
  | some snapshot => .used snapshot.used

/-- What the description of a quota came to agrees with what the query of its use came to and with the
bytes that were answered. -/
structure ReadsAgree (volume : String)
    (description : Ran State (Entry Call) (Except StepError (Option Snapshot)))
    (query : Ran State (Entry Call) (Except StepError Usage)) (bytes : Except StepError UInt64) :
    Prop where
  /-- The query answers the use, and where one of them fails, the other fails with the same error. -/
  usage : query.value = description.value.map described
  bytes : bytes = description.value.map fun found => (found.map (·.used)).getD 0
  /-- The description is one of the volume. -/
  volume : ∀ snapshot, description.value = .ok (some snapshot) → snapshot.volume = volume
  /-- The query makes the calls of the description but for the reading of the limit, -/
  calls : DiskQuota.calls query.trace =
    (DiskQuota.calls description.trace).filter fun c => !c.readsLimit
  /-- which is read once at most. -/
  once : (DiskQuota.calls description.trace).countP Call.readsLimit ≤ 1

/-- The turns that are left without the reading of a limit. -/
def unlimited (m : List Turn) : List Turn := m.filter fun x => !x.call.readsLimit

theorem unlimited_eq_self {m : List Turn} (h : ∀ x ∈ m, x.call.readsLimit = false) :
    unlimited m = m :=
  List.filter_eq_self.2 fun x hx => by simp [h x hx]

/-! Turns and the outcomes that they take. -/

theorem turns_append (ds ds' : List Due) (os : List Outcome) :
    turns (ds ++ ds') os = turns ds os ++ turns ds' (os.drop ds.length) := by
  induction ds generalizing os with
  | nil => rfl
  | cons d ds ih => simp [turns, ih]

/-- Where the outcome is left out that stands behind those of the first calls, the later ones move up. -/
theorem turns_eraseIdx (ds ds' : List Due) (os : List Outcome) :
    turns (ds ++ ds') (os.eraseIdx ds.length) = turns ds os ++ turns ds' (os.drop (ds.length + 1)) := by
  induction ds generalizing os with
  | nil => simp [turns]
  | cons d ds ih =>
    cases os with
    | nil => simpa [turns] using ih []
    | cons o os => simp [turns, ih]

/-- Without the outcome that falls to a call, and without the call, the turns are those before it and those
after it. -/
theorem played_without (ds : List Due) (d : Due) (ds' : List Due) (s : State) :
    ∃ o rest, (∀ x ∈ rest, x.toDue ∈ ds') ∧
      played (ds ++ d :: ds') s = (if (played ds s).any Turn.ends then played ds s
        else played ds s ++ ⟨d, o⟩ :: if Turn.ends ⟨d, o⟩ then [] else rest) ∧
      played (ds ++ ds') { s with outcomes := s.outcomes.eraseIdx ds.length } =
        if (played ds s).any Turn.ends then played ds s else played ds s ++ rest := by
  refine ⟨(s.outcomes.drop ds.length).headD .success,
    played ds' { s with outcomes := s.outcomes.drop (ds.length + 1) },
    fun x hx => mem_of_mem_played hx, ?_, ?_⟩
  · rw [played, turns_append, cutAfter_append, turns, List.tail_drop, cutAfter,
      apply_ite (List.cons _)]
    rfl
  · rw [played, turns_eraseIdx, cutAfter_append]
    rfl

variable (settings : Settings) (s : State) (volume : String)

/-- The calls that are due to find the record of a volume. -/
def searching : List Due :=
  acquisition settings s ++ [⟨.getRecord, .get (s.sessions + 1) volume⟩]

theorem due_describeQuota : due settings s (.describeQuota volume) = searching settings s volume ++
    ⟨.readLimit, .limit (s.records + 1)⟩ :: [⟨.readUsed, .used (s.records + 1)⟩] := rfl

theorem due_queryUsage : due settings s (.queryUsage volume) =
    searching settings s volume ++ [⟨.readUsed, .used (s.records + 1)⟩] := rfl

theorem searching_readsLimit :
    ∀ d ∈ searching settings s volume, d.call.readsLimit = false := by
  simp [searching, acquisition, Call.readsLimit]

/-- An outcome that is left out leaves the handles alone, so the same calls are due. -/
theorem due_sparing (asked : List (Call × Outcome)) (op : Operation) :
    due settings (s.sparing asked) op = due settings s op := by
  unfold State.sparing
  split <;> rfl

theorem sparing_of_none {asked : List (Call × Outcome)} (h : ∀ x ∈ asked, x.1.readsLimit = false) :
    s.sparing asked = s := by
  rw [State.sparing, List.findIdx?_eq_none_iff.2 h]

theorem sparing_of_some {asked asked' : List (Call × Outcome)} {x : Call × Outcome}
    (h : ∀ y ∈ asked, y.1.readsLimit = false) (hx : x.1.readsLimit = true) :
    s.sparing (asked ++ x :: asked') =
      { s with outcomes := s.outcomes.eraseIdx asked.length } := by
  rw [State.sparing, List.findIdx?_append, List.findIdx?_eq_none_iff.2 h, List.findIdx?_cons, hx]
  simp

/-- The calls of a description with their outcomes are its turns. -/
theorem describing_eq : describing settings volume s =
    (played (due settings s (.describeQuota volume)) s).map Turn.exchange :=
  (Writes.describeQuota settings volume s).exchanges (due_asks settings s _) (released_asks s _)

/-- The turns of a query are those of the description but for the reading of the limit. -/
theorem played_sparing
    (hread : ∀ x ∈ played (due settings s (.describeQuota volume)) s,
      x.call.readsLimit = true → x.ends = false) :
    let t := s.sparing (describing settings volume s)
    played (due settings t (.queryUsage volume)) t =
      unlimited (played (due settings s (.describeQuota volume)) s) := by
  intro t
  have hdue : due settings t (.queryUsage volume) = due settings s (.queryUsage volume) :=
    due_sparing settings s _ _
  have hsearch : ∀ x ∈ played (searching settings s volume) s, x.call.readsLimit = false :=
    fun x hx => searching_readsLimit settings s volume _ (mem_of_mem_played hx)
  have hasked : ∀ y ∈ (played (searching settings s volume) s).map Turn.exchange,
      y.1.readsLimit = false := by
    intro y hy
    obtain ⟨x, hx, rfl⟩ := List.mem_map.1 hy
    exact hsearch x hx
  obtain ⟨o, rest, hrest, hdescription, hquery⟩ := played_without (searching settings s volume)
    ⟨.readLimit, .limit (s.records + 1)⟩ [⟨.readUsed, .used (s.records + 1)⟩] s
  rw [← due_describeQuota] at hdescription
  rw [← due_queryUsage] at hquery
  cases hany : (played (searching settings s volume) s).any Turn.ends with
  | true =>
    -- the limit is not read, and nothing is left out
    rw [hany, if_pos rfl] at hdescription
    have ht : t = s := by
      show s.sparing _ = s
      rw [describing_eq, hdescription, sparing_of_none s hasked]
    rw [hdue, ht, hdescription, unlimited_eq_self hsearch, due_queryUsage, played_append, hany,
      if_pos rfl]
  | false =>
    rw [hany, if_neg Bool.false_ne_true] at hdescription hquery
    have hends : Turn.ends ⟨⟨.readLimit, .limit (s.records + 1)⟩, o⟩ = false :=
      hread _ (by simp [hdescription]) rfl
    rw [hends, if_neg Bool.false_ne_true] at hdescription
    have hlength : ((played (searching settings s volume) s).map Turn.exchange).length =
        (searching settings s volume).length := by
      rw [List.length_map, ← List.length_map (f := (·.toDue)), toDue_played_eq hany]
    have ht : t = { s with outcomes := s.outcomes.eraseIdx (searching settings s volume).length } := by
      show s.sparing _ = _
      rw [describing_eq, hdescription, List.map_append, List.map_cons, sparing_of_some s hasked rfl, hlength]
    have hused : unlimited rest = rest := unlimited_eq_self fun x hx => by
      rw [List.mem_singleton.1 (hrest x hx)]
      rfl
    have hleft : unlimited (played (due settings s (.describeQuota volume)) s) =
        unlimited (played (searching settings s volume) s) ++ unlimited rest := by
      rw [hdescription, unlimited, List.filter_append, List.filter_cons_of_neg (by simp [Call.readsLimit])]
      rfl
    rw [hdue, ht, hquery, hleft, unlimited_eq_self hsearch, hused]

/-! What a list of turns comes to is told by those that do not read a limit, unless that failed. -/

section

variable {m : List Turn}

theorem noQuota_unlimited (hm : ∀ x ∈ m, x.call.readsLimit = true → x.step = .readLimit) :
    noQuota (unlimited m) = noQuota m := by
  rw [noQuota, noQuota, Bool.eq_iff_iff, List.any_eq_true, List.any_eq_true]
  constructor
  · rintro ⟨x, hx, h⟩
    exact ⟨x, (List.mem_filter.1 hx).1, h⟩
  · rintro ⟨x, hx, h⟩
    refine ⟨x, List.mem_filter.2 ⟨hx, ?_⟩, h⟩
    cases hread : x.call.readsLimit with
    | false => rfl
    | true => simp [hm x hx hread] at h

theorem numberAt_unlimited (hm : ∀ x ∈ m, x.call.readsLimit = true → x.step = .readLimit) {p : Step}
    (hp : p ≠ .readLimit) :
    numberAt p (unlimited m) = numberAt p m := by
  have hfind : (unlimited m).find? (fun x => x.step = p) =
      m.find? fun x => x.step = p := by
    rw [unlimited, List.find?_filter]
    refine List.find?_congr fun x hx => ?_
    cases hread : x.call.readsLimit with
    | false => simp
    | true => simp [hm x hx hread, hp.symm]
  rw [numberAt, numberAt, hfind]

theorem usageOf_unlimited (hm : ∀ x ∈ m, x.call.readsLimit = true → x.step = .readLimit) :
    usageOf (unlimited m) = usageOf m := by
  rw [usageOf, usageOf, noQuota_unlimited hm, numberAt_unlimited hm (by simp)]

theorem verdict_unlimited (hread : ∀ x ∈ m, x.call.readsLimit = true → x.ends = false) {α : Type}
    (a : α) : verdict (unlimited m) a = verdict m a := by
  have herrors : (unlimited m).findSome? Turn.error? =
      m.findSome? Turn.error? := by
    rw [← List.head?_filterMap, ← List.head?_filterMap, unlimited, List.filterMap_filter]
    congr 1
    refine List.filterMap_congr fun x hx => ?_
    cases hlimit : x.call.readsLimit with
    | false => rfl
    | true =>
      rw [Turn.error?_eq_none (hread x hx hlimit)]
      rfl
  rw [verdict, verdict, herrors]

theorem verdict_map {α β : Type} (f : α → β) (a : α) : (verdict m a).map f = verdict m (f a) := by
  rw [verdict, verdict]
  cases m.findSome? Turn.error? <;> rfl

theorem any_gives_unlimited (h : Handle) :
    (unlimited m).any (Turn.gives h) = m.any (Turn.gives h) := by
  rw [unlimited, List.any_filter]
  congr 1
  funext x
  cases hread : x.call.readsLimit with
  | false => simp
  | true =>
    have hyields : x.call.yields ≠ some h := by
      cases hcall : x.call <;> simp_all [Call.readsLimit, Call.yields]
    simp [gives_of_yields_ne hyields]

theorem described_snapshotOf : described (snapshotOf volume m) = usageOf m := by
  rw [snapshotOf, usageOf]
  split <;> rfl

end

theorem released_sparing (asked : List (Call × Outcome)) (m : List Turn) :
    released (s.sparing asked) (unlimited m) = released s m := by
  rw [released, released, any_gives_unlimited, any_gives_unlimited, State.sparing]
  split <;> rfl

theorem released_not_readsLimit (m : List Turn) : ∀ c ∈ released s m, (!c.readsLimit) = true := by
  intro c hc
  have hasks := released_asks s m c hc
  cases c <;> first | rfl | cases hasks

theorem due_readsLimit :
    ∀ d ∈ due settings s (.describeQuota volume), d.call.readsLimit = true → d.step = .readLimit := by
  simp [due, acquisition, inSession, opening, onRecord, Call.readsLimit]

theorem describeQuota_reads_once :
    (calls (service.describeQuota settings volume s).trace).countP Call.readsLimit ≤ 1 := by
  have hreleased : (released s (played (due settings s (.describeQuota volume)) s)).countP
      Call.readsLimit = 0 :=
    List.countP_eq_zero.2 fun c hc => by simpa using released_not_readsLimit s _ c hc
  have hasked := map_played_sublist (·.call) (due settings s (.describeQuota volume)) s
  rw [(Writes.describeQuota settings volume s).calls, List.countP_append, hreleased]
  exact hasked.countP_le

/-- Once the limit was read or is not to be read, a query does as the description. -/
theorem query_agrees
    (hread : ∀ x ∈ played (due settings s (.describeQuota volume)) s,
      x.call.readsLimit = true → x.ends = false) :
    let t := s.sparing (describing settings volume s)
    ReadsAgree volume (service.describeQuota settings volume s) (service.queryUsage settings volume t)
      (service.getQuotaUsed settings volume t).value := by
  intro t
  have hplayed : played (due settings t (.queryUsage volume)) t =
      unlimited (played (due settings s (.describeQuota volume)) s) :=
    played_sparing settings s volume hread
  have hsteps : ∀ x ∈ played (due settings s (.describeQuota volume)) s,
      x.call.readsLimit = true → x.step = .readLimit :=
    fun x hx => due_readsLimit settings s volume _ (mem_of_mem_played hx)
  have hd := (Writes.describeQuota settings volume s).toPlays
  have hq := (Writes.queryUsage settings volume t).toPlays
  have husage : (service.queryUsage settings volume t).value =
      (service.describeQuota settings volume s).value.map described := by
    rw [hq.value, hd.value, hplayed, usageOf_unlimited hsteps, verdict_unlimited hread, verdict_map,
      described_snapshotOf]
  constructor
  · exact husage
  · rw [Service.getQuotaUsed, Task.map_value, husage]
    rcases (service.describeQuota settings volume s).value with e | _ | snapshot <;> rfl
  · intro snapshot h
    rw [hd.value, verdict] at h
    split at h
    · cases h
    · rw [snapshotOf] at h
      split at h <;> cases h
      rfl
  · have hkept := List.filter_eq_self.2 (released_not_readsLimit s
      (played (due settings s (.describeQuota volume)) s))
    rw [hq.calls, hd.calls, hplayed, released_sparing, List.filter_append, hkept, List.filter_map]
    rfl
  · exact describeQuota_reads_once settings s volume

/-- Where the limit cannot be read, nothing is asked for after it. -/
theorem played_of_unread {x : Turn} (hx : x ∈ played (due settings s (.describeQuota volume)) s)
    (hlimit : x.call.readsLimit = true) (hends : x.ends = true) :
    played (due settings s (.describeQuota volume)) s =
      played (searching settings s volume) s ++ [x] := by
  obtain ⟨o, rest, hrest, hm, -⟩ := played_without (searching settings s volume)
    ⟨.readLimit, .limit (s.records + 1)⟩ [⟨.readUsed, .used (s.records + 1)⟩] s
  rw [← due_describeQuota] at hm
  have hsearch : x ∉ played (searching settings s volume) s := fun hx => by
    rw [searching_readsLimit settings s volume _ (mem_of_mem_played hx)] at hlimit
    cases hlimit
  have hused : x ∉ rest := fun hx => by
    rw [List.mem_singleton.1 (hrest x hx)] at hlimit
    cases hlimit
  split at hm
  · exact absurd (hm ▸ hx) hsearch
  · rw [hm] at hx
    rcases List.mem_cons.1 ((List.mem_append.1 hx).resolve_left hsearch) with rfl | hx
    · rw [hm, if_pos hends]
    · split at hx
      · exact absurd hx List.not_mem_nil
      · exact absurd hx hused

/-- Where the limit cannot be read, that is the error, and the use is not read. -/
theorem describeQuota_stops {n : Nat} {code : Status}
    (h : (.limit n, .failure code) ∈ describing settings volume s) :
    (service.describeQuota settings volume s).value = .error ⟨.read, .readLimit, code⟩ ∧
      ∀ k, .used k ∉ calls (service.describeQuota settings volume s).trace := by
  have hd := (Writes.describeQuota settings volume s).toPlays
  rw [describing_eq] at h
  obtain ⟨x, hx, hexchange⟩ := List.mem_map.1 h
  obtain ⟨hcall, ho⟩ := Prod.mk.inj hexchange
  have hlimit : x.call.readsLimit = true := by
    rw [hcall]
    rfl
  constructor
  · rw [hd.value, verdict_played hx ho,
      due_readsLimit settings s volume _ (mem_of_mem_played hx) hlimit]
    rfl
  · intro k hk
    have hends : x.ends = true := by
      rw [Turn.ends, ho]
      exact Call.ends_of_code? rfl
    rw [hd.calls, played_of_unread settings s volume hx hlimit hends] at hk
    rcases List.mem_append.1 hk with hk | hk
    · obtain ⟨y, hy, hused⟩ := List.mem_map.1 hk
      rcases List.mem_append.1 hy with hy | hy
      · have hsearch : ∀ d ∈ searching settings s volume, d.call ≠ .used k := by
          simp [searching, acquisition]
        exact hsearch _ (mem_of_mem_played hy) hused
      · rw [List.mem_singleton.1 hy, hcall] at hused
        cases hused
    · cases released_asks s _ _ hk

/-- **The two ways to read a quota agree.** Whatever the settings, the volume and the outcomes that the
service has in store: unless the limit could not be read, a query from the same state, without the outcome
that fell to the limit, makes the same calls but for that one and answers what the description tells of the
use, and the bytes are those of the description. If the limit could not be read, that is what the
description fails with, and it does not read the use. -/
theorem reads_agree :
    ((∀ n o, (.limit n, o) ∈ describing settings volume s → o.code? = none) →
      ReadsAgree volume (service.describeQuota settings volume s)
        (service.queryUsage settings volume (s.sparing (describing settings volume s)))
        (service.getQuotaUsed settings volume (s.sparing (describing settings volume s))).value) ∧
    ∀ n code, (.limit n, .failure code) ∈ describing settings volume s →
      (service.describeQuota settings volume s).value = .error ⟨.read, .readLimit, code⟩ ∧
        ∀ k, .used k ∉ calls (service.describeQuota settings volume s).trace := by
  refine ⟨fun hread => query_agrees settings s volume fun x hx hlimit => ?_, fun n code h =>
    describeQuota_stops settings s volume h⟩
  obtain ⟨n, hcall⟩ : ∃ n, x.call = .limit n := by
    cases hcall : x.call <;> rw [hcall] at hlimit <;> first | exact ⟨_, rfl⟩ | cases hlimit
  have hmem : (.limit n, x.outcome) ∈ describing settings volume s := by
    rw [describing_eq, ← hcall]
    exact List.mem_map_of_mem hx
  rw [Turn.ends, hcall, Call.ends_eq (by simp), hread n x.outcome hmem]
  rfl

/-- The limit takes the sixth outcome; left out, the use is the sixth. -/
example : (State.initial (List.replicate 5 .success ++ [.value 9, .value 4])).sparing
    (describing .default "D:" (.initial (List.replicate 5 .success ++ [.value 9, .value 4]))) =
      .initial (List.replicate 5 .success ++ [.value 4]) := by
  decide

end DiskQuota.Scripted
