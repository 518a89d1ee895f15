import DiskQuota.Proofs.Fsrm.Refinement
import DiskQuota.Proofs.Scripted.Cleanup

/-!
The objects of the file server resource manager are given back. The double settles its handles, and the
system is called for the images of its calls; so what holds of the handles of the one holds of the objects
of the other (`run_settled`): each object that was handed out is released once, and none is named after
its release.
-/
namespace DiskQuota.Fsrm

/-- The object that a call gives back. -/
def Call.releases : Call → Option (Object × Nat)
  | .releaseRecord record => some (.record, record)
  | .releaseSession session => some (.session, session)
  | _ => none

/-- The objects that a call is made on. -/
def Call.names : Call → List (Object × Nat)
  | .createQuota session _ | .getQuota session _ | .releaseSession session => [(.session, session)]
  | .setQuotaLimit record _ | .quotaLimit record | .quotaUsed record | .commit record
  | .releaseRecord record => [(.record, record)]
  | _ => []

/-- Every object that is handed out has to be given back. -/
def custody : Custody Call Object where
  releases := Call.releases
  names := Call.names
  owed _ := True
  owed_of_releases _ := trivial

/-- The calls `t` lead from `s` to `s'` and settle the objects that were handed out on the way. -/
structure Settled (s : System) (t : List Call) (s' : System) : Prop
    extends custody.Settled s.existing t s'.existing where
  after : s' = s.after t

theorem Settled.nil (s : System) : Settled s [] s where
  toSettled := .nil
  after := s.after_nil.symm

theorem Settled.append {s s' s'' : System} {t t' : List Call} (h : Settled s t s')
    (h' : Settled s' t' s'') : Settled s (t ++ t') s'' where
  toSettled := h.toSettled.append h'.toSettled
  after := by rw [h'.after, h.after, System.after_append]

/-! Objects are handles of the double. -/

/-- An object as the double knows it. -/
def asHandle (x : Object × Nat) : Scripted.Handle × Nat := (x.1.handle, x.2)

theorem existing_double (os : List Scripted.Outcome) (i : Nat) (s : System) (kind : Object) :
    (double os i s).existing kind.handle = s.existing kind := by
  cases kind <;> rfl

section

variable {guid : Nat → Option Guid} {closes : Bool} {c : Call} {c' : Scripted.Call}

/-- A call and its image give back the same, and are made on the same objects. -/
theorem image_handles (h : image guid closes c' = some c) :
    c'.releases = c.releases.map asHandle ∧ ∀ x ∈ c.names, asHandle x ∈ c'.names := by
  cases c' with
  | instantiate a b context =>
    obtain ⟨manager, -, -, rfl⟩ := image_instantiate h
    simp [Call.releases, Call.names, Scripted.Call.releases]
  | closeContext =>
    obtain ⟨-, rfl⟩ := image_closeContext h
    simp [Call.releases, Call.names, Scripted.Call.releases]
  | _ =>
    cases h
    simp [Call.releases, Call.names, Scripted.Call.releases, Scripted.Call.names, asHandle, Object.handle]

/-- What has no image gives nothing back. -/
theorem releases_of_image_none (h : image guid closes c' = none) : c'.releases = none := by
  cases c' with
  | instantiate a b context => rfl
  | closeContext => rfl
  | _ => cases h

theorem essential_of_releases {x : Object × Nat} (h : c.releases = some x) : c.essential = true := by
  cases c <;> first | rfl | cases h

theorem essential_of_names {x : Object × Nat} (h : x ∈ c.names) : c.essential = true := by
  cases c <;> first | rfl | cases h

/-- What is released by the calls of the system is released by those of the double. -/
theorem countP_releases {t : List Call} {t' : List Scripted.Call}
    (ht : essential t = t'.filterMap (image guid closes)) (kind : Object) (n : Nat) :
    t.countP (fun c => c.releases = some (kind, n)) =
      t'.countP (fun c => c.releases = some (kind.handle, n)) := by
  have hessential : (essential t).countP (fun c => c.releases = some (kind, n)) =
      t.countP (fun c => c.releases = some (kind, n)) := by
    rw [essential, List.countP_filter]
    refine List.countP_congr fun c _ => ?_
    simp only [Bool.and_eq_true, decide_eq_true_eq, and_iff_left_iff_imp]
    exact essential_of_releases
  rw [← hessential, ht, List.countP_filterMap]
  refine List.countP_congr fun c' _ => ?_
  cases h : image guid closes c' with
  | none => simp [releases_of_image_none h]
  | some c =>
    rw [(image_handles h).1]
    cases hc : c.releases with
    | none => simp [hc]
    | some x =>
      obtain ⟨other, k⟩ := x
      simp [hc, asHandle, Object.handle_inj]

/-- What the double settles is settled. -/
theorem Settled.of_double {s s' : System} {t : List Call} {os os' : List Scripted.Outcome} {i i' : Nat}
    {t' : List Scripted.Call} (hafter : s' = s.after t)
    (ht : essential t = t'.filterMap (image guid closes))
    (h : Scripted.Settled (double os i s) t' (double os' i' s')) : Settled s t s' where
  after := hafter
  le kind := by
    have hle := h.le kind.handle
    rwa [existing_double, existing_double] at hle
  released kind n _ := by
    have hreleased := h.released kind.handle n (by cases kind <;> simp [Object.handle, Scripted.custody])
    rw [existing_double, existing_double] at hreleased
    exact (countP_releases ht kind n).trans hreleased
  fresh := by
    intro c hc x hx
    have hmem : c ∈ essential t := List.mem_filter.2 ⟨hc, essential_of_names hx⟩
    rw [ht, List.mem_filterMap] at hmem
    obtain ⟨c', hc', himage⟩ := hmem
    have hlt := h.fresh c' hc' (asHandle x) ((image_handles himage).2 x hx)
    rwa [asHandle, existing_double] at hlt
  apart := by
    have hpair : (essential t).Pairwise fun c d => ∀ x, c.releases = some x → x ∉ d.names := by
      rw [ht]
      refine h.apart.filterMap _ ?_
      intro c' d' hapart c hc d hd x hx hname
      refine hapart (asHandle x) ?_ ((image_handles hd).2 x hname)
      show c'.releases = some (asHandle x)
      rw [(image_handles hc).1, hx, Option.map_some]
    refine (List.pairwise_filter.1 hpair).imp ?_
    intro c d hcd x hx hname
    exact hcd (essential_of_releases hx) (essential_of_names hname) x hx hname

end

/-- An operation settles what it is handed out. -/
theorem run_settled (settings : Settings) (op : Operation) (m : Machine) :
    Settled m.system (calls (op.run service settings m).trace)
      (op.run service settings m).state.system := by
  obtain ⟨os, h⟩ := exists_reflection settings op m 0
  obtain ⟨i', hleft⟩ := h.left
  have hdouble := Scripted.run_settled settings (double os 0 m.system) op
  rw [hleft] at hdouble
  exact .of_double (congrArg Machine.system h.after) h.trace hdouble

end DiskQuota.Fsrm
