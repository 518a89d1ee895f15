import DiskQuota.Proofs.Scripted.Cleanup

/-!
The shape of an operation over the scripted service. Its context is opened at most once, and all that
is done with sessions and records stands between there and the call that closes it (`run_shape`). After
a record was obtained, it is released, and then the session that it was obtained from
(`run_record_first`).
-/
namespace DiskQuota.Scripted

/-- Whether a call opens a context when it turns out so. -/
def Call.opens : Call → Outcome → Bool
  | .openContext _, o => o.code?.isNone
  | _, _ => false

/-- Whether a call obtains a session or a record, or is made on one. -/
def Call.onHandle : Call → Bool
  | .resolve _ | .openContext _ | .closeContext => false
  | _ => true

/-- How many contexts a trace opened, given the outcomes that were in store. -/
def opened (os : List Outcome) (t : List Call) : Nat :=
  (exchanges Call.asks .success os t).countP fun x => x.1.opens x.2

section

variable (os : List Outcome)

theorem opened_append (t t' : List Call) :
    opened os (t ++ t') = opened os t + opened (os.drop (t.countP Call.asks)) t' := by
  rw [opened, exchanges_append, List.countP_append]
  rfl

theorem opened_ask {c : Call} (hc : c.asks = true) (o : Outcome) :
    opened (o :: os) [c] = if c.opens o then 1 else 0 := by
  simp [opened, exchanges, hc, List.countP_cons]

theorem opened_of_not_asks {t : List Call} (h : ∀ c ∈ t, c.asks = false) : opened os t = 0 := by
  rw [opened, exchanges_of_not_asks _ _ _ h]
  rfl

end

theorem Call.opens_of_onHandle {c : Call} (h : c.onHandle = true) (o : Outcome) : c.opens o = false := by
  cases c <;> first | rfl | cases h

theorem inSession_onHandle (session record : Nat) (op : Operation) :
    ∀ d ∈ inSession session record op, d.call.onHandle = true := by
  cases op <;> simp [inSession, opening, onRecord, Call.onHandle]

variable (settings : Settings) (op : Operation) (s : State)

/-- The contexts that an operation opened are found among its turns. -/
theorem opened_run : opened s.outcomes (calls (op.run service settings s).trace) =
    (played (due settings s op) s).countP fun x => x.call.opens x.outcome := by
  rw [opened, run_exchanges, List.countP_map]
  rfl

/-- The turns of an operation: either it came no further than to its context, or it opened that and went
on to its handles. -/
theorem played_cases :
    ((∀ x ∈ played (due settings s op) s, x.call.asks = true ∧ x.call.onHandle = false) ∧
      (played (due settings s op) s).countP (fun x => x.call.opens x.outcome) = 0) ∨
    ∃ o o' o'' m, played (due settings s op) s =
        ⟨⟨.resolveManagerClass, .resolve settings.managerClass⟩, o⟩ ::
        ⟨⟨.resolveManagerInterface, .resolve settings.managerInterface⟩, o'⟩ ::
        ⟨⟨.initializeContext, .openContext settings.threading⟩, o''⟩ :: m ∧
      o''.code? = none ∧ ∀ x ∈ m, x.call.onHandle = true := by
  rw [due, acquisition, List.cons_append, played_cons]
  split
  · exact .inl ⟨by simp [Call.asks, Call.onHandle], by simp [Call.opens]⟩
  rw [List.cons_append, played_cons]
  split
  · exact .inl ⟨by simp [Call.asks, Call.onHandle], by simp [Call.opens]⟩
  rw [List.cons_append, played_cons]
  split
  · next hends =>
    rw [Call.ends_eq (by simp)] at hends
    refine .inl ⟨by simp [Call.asks, Call.onHandle], ?_⟩
    simpa [Call.opens, Option.isSome_iff_ne_none] using hends
  · next hends =>
    rw [Call.ends_eq (by simp)] at hends
    refine .inr ⟨_, _, _, _, rfl, by simpa using hends, ?_⟩
    intro x hx
    rcases List.mem_append.1 (mem_of_mem_played hx) with hd | hd
    · rw [List.mem_singleton.1 hd]
      rfl
    · exact inSession_onHandle _ _ op _ hd

theorem closing_onHandle (r k : Bool) : ∃ work, closing s r k = work ++ [.closeContext] ∧
    ∀ c ∈ work, c.onHandle = true := by
  refine ⟨_, rfl, ?_⟩
  cases r <;> cases k <;> simp [Call.onHandle]

theorem gives_of_not_onHandle {h : Handle} (hh : h ≠ .identifier) {x : Turn}
    (hx : x.call.onHandle = false) : x.gives h = false := by
  refine gives_of_yields_ne fun hy => ?_
  cases hc : x.call <;> rw [hc] at hx hy <;> cases hx <;> cases hy
  exact hh rfl

/-- What an operation does with handles stands between opening its context and closing it; where the
context is not opened, nothing is. -/
theorem run_shape :
    (opened s.outcomes (calls (op.run service settings s).trace) = 0 ∧ ∃ before,
      calls (op.run service settings s).trace = before ++ [.closeContext] ∧
      ∀ c ∈ before, c.asks = true ∧ c.onHandle = false) ∨
    (opened s.outcomes (calls (op.run service settings s).trace) = 1 ∧ ∃ work,
      calls (op.run service settings s).trace =
        .resolve settings.managerClass :: .resolve settings.managerInterface ::
          .openContext settings.threading :: (work ++ [.closeContext]) ∧
      ∀ c ∈ work, c.onHandle = true) := by
  rw [opened_run, (run_plays settings op s).calls]
  rcases played_cases settings op s with ⟨hplayed, hzero⟩ | ⟨o, o', o'', m, hm, ho, hwork⟩
  · have hgives : ∀ h, h ≠ .identifier → (played (due settings s op) s).any (Turn.gives h) = false :=
      fun h hh => List.any_eq_false.2 fun x hx => by simp [gives_of_not_onHandle hh (hplayed x hx).2]
    refine .inl ⟨hzero, (played (due settings s op) s).map (·.call), ?_, ?_⟩
    · rw [released, hgives .record Handle.noConfusion, hgives .session Handle.noConfusion]
      rfl
    · intro c hc
      obtain ⟨x, hx, rfl⟩ := List.mem_map.1 hc
      exact hplayed x hx
  · obtain ⟨back, hback, honHandle⟩ := closing_onHandle s
      ((played (due settings s op) s).any (Turn.gives .record))
      ((played (due settings s op) s).any (Turn.gives .session))
    refine .inr ⟨?_, m.map (·.call) ++ back, ?_, ?_⟩
    · have hnone : m.countP (fun x => x.call.opens x.outcome) = 0 :=
        List.countP_eq_zero.2 fun x hx => by simp [Call.opens_of_onHandle (hwork x hx)]
      rw [hm, List.countP_cons, List.countP_cons, List.countP_cons, hnone]
      simp [Call.opens, ho]
    · rw [released, hback, hm]
      simp
    · intro c hc
      rcases List.mem_append.1 hc with hc | hc
      · obtain ⟨x, hx, rfl⟩ := List.mem_map.1 hc
        exact hwork x hx
      · exact honHandle c hc

/-- A session is asked for through the identifiers that the operation resolved. -/
theorem run_instantiate {a b : Nat} {context : ServerContext}
    (h : .instantiate a b context ∈ calls (op.run service settings s).trace) :
    a = s.identifiers + 1 ∧ b = s.identifiers + 2 := by
  rw [(run_plays settings op s).calls, List.mem_append] at h
  rcases h with h | h
  · obtain ⟨x, hx, hcall⟩ := List.mem_map.1 h
    have hd : ∀ d ∈ due settings s op, d.call = .instantiate a b context →
        a = s.identifiers + 1 ∧ b = s.identifiers + 2 := by
      cases op <;> simp [due, acquisition, inSession, opening, onRecord] <;> grind
    exact hd _ (mem_of_mem_played hx) hcall
  · have hasks := released_asks s _ _ h
    cases hasks

theorem due_yields_names {d : Due} (hd : d ∈ due settings s op) (hy : d.call.yields = some .record) :
    d.call.names = [(.session, s.sessions + 1)] := by
  rcases List.mem_append.1 hd with hd | hd
  · exact absurd hy (acquisition_yields settings s d hd)
  · rcases List.mem_cons.1 hd with rfl | hd
    · cases op <;> rfl
    · rw [onRecord_yields _ op d hd] at hy
      cases hy

/-- There is a session to obtain a record from. -/
theorem any_gives_session {x : Turn} (hx : x ∈ played (due settings s op) s)
    (hy : x.call.yields = some .record) :
    (played (due settings s op) s).any (Turn.gives .session) = true := by
  rw [due, played_append] at hx ⊢
  have hnot : x ∉ played (acquisition settings s) s := fun hmem =>
    acquisition_yields settings s _ (mem_of_mem_played hmem) hy
  split
  · next hends =>
    rw [if_pos hends] at hx
    exact absurd hx hnot
  · next hends =>
    rw [List.any_append, acquisition_session, Bool.eq_false_iff.2 hends]
    rfl

/-- A record is asked for in the session that was obtained. If there is one, it is released and after
it the session. -/
theorem run_record_first {before after : List Call} {c : Call}
    (h : calls (op.run service settings s).trace = before ++ c :: after)
    (hy : c.yields = some .record) :
    c.names = [(.session, s.sessions + 1)] ∧
    (handedOut .record s.outcomes (calls (op.run service settings s).trace) = 1 →
      [.releaseRecord (s.records + 1), .releaseSession (s.sessions + 1)].Sublist after) := by
  have hasks : c.asks = true := by
    cases c <;> first | rfl | cases hy
  have hcalls := (run_plays settings op s).calls
  have hnot : c ∉ released s (played (due settings s op) s) := fun hmem => by
    rw [released_asks s _ c hmem] at hasks
    cases hasks
  rw [hcalls] at h
  obtain ⟨rest, rfl, hasked⟩ := split_of_not_mem_right h hnot
  have hmem : c ∈ (played (due settings s op) s).map (·.call) := by simp [hasked]
  obtain ⟨x, hx, rfl⟩ := List.mem_map.1 hmem
  refine ⟨due_yields_names settings op s (mem_of_mem_played hx) hy, fun hone => ?_⟩
  have hrecord : (played (due settings s op) s).any (Turn.gives .record) = true := by
    rw [handedOut_run settings s op Handle.noConfusion] at hone
    by_contra hany
    rw [if_neg hany] at hone
    cases hone
  rw [released, hrecord, any_gives_session settings op s hx hy]
  refine List.Sublist.trans ?_ (List.sublist_append_right rest _)
  exact (List.Sublist.refl [_, _]).trans (List.sublist_append_left [_, _] [Call.closeContext])

end DiskQuota.Scripted
