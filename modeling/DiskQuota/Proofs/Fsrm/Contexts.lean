import DiskQuota.Benches
import DiskQuota.Proofs.Bare
import DiskQuota.Proofs.Closed
import DiskQuota.Proofs.Fsrm.Reply
import DiskQuota.Proofs.Native.Request
import DiskQuota.Proofs.Script

/-!
Accounting for contexts. The invariant is `Accounts m t m'`: the calls `t` lead from `m` to `m'` as they
tell themselves, and at no point of them were more contexts closed than there were. It holds of every
call of the service and composes, so it holds of operations (`run_accounts`), of all that can be asked
of the service (`step_accounts`) and of scripts of any length. The headline `script_balanced` reads it
off for a fresh service. The count has 32 bits, and all of this is up to the point where as many contexts
are open at once.
-/
namespace DiskQuota.Fsrm

/-- At no point are so many contexts open that the count overflows. -/
def Fits (m : Machine) (t : List Call) : Prop :=
  ∀ p, p <+: t → m.contexts.toNat + tally Call.opens m.store p < p.count .closeCom + UInt32.size

/-- At no point were more contexts closed than there were. -/
def Covered (m : Machine) (t : List Call) : Prop :=
  ∀ p, p <+: t → p.count .closeCom ≤ m.contexts.toNat + tally Call.opens m.store p

/-- The calls `t` lead from `m` to `m'` as they tell themselves, and close only what is open. -/
structure Accounts (m : Machine) (t : List Call) (m' : Machine) : Prop where
  after : m' = m.after t
  covered : Fits m t → Covered m t

theorem Fits.of_prefix {m : Machine} {t p : List Call} (h : Fits m t) (hp : p <+: t) : Fits m p :=
  fun q hq => h q (hq.trans hp)

theorem toNat_add_sub {c : UInt32} {a b : Nat} (hle : b ≤ c.toNat + a)
    (hlt : c.toNat + a < b + UInt32.size) : (c + .ofNat a - .ofNat b).toNat + b = c.toNat + a := by
  have hc := c.toNat_lt
  have hsize : UInt32.size = 4294967296 := rfl
  rw [UInt32.toNat_sub, UInt32.toNat_add, UInt32.toNat_ofNat', UInt32.toNat_ofNat']
  omega

theorem prefix_append_cases {α : Type} {l l' p : List α} (h : p <+: l ++ l') :
    p <+: l ∨ ∃ q, q <+: l' ∧ p = l ++ q := by
  rcases List.prefix_or_prefix_of_prefix h (List.prefix_append l l') with hl | ⟨q, rfl⟩
  · exact .inl hl
  · exact .inr ⟨q, (List.prefix_append_right_inj l).1 h, rfl⟩

namespace Accounts

variable {m m' m'' : Machine} {t t' : List Call}

/-- The count is the difference of the contexts opened and closed. -/
theorem balance (h : Accounts m t m') (hfits : Fits m t) :
    m'.contexts.toNat + t.count .closeCom = m.contexts.toNat + tally Call.opens m.store t := by
  rw [h.after]
  exact toNat_add_sub (h.covered hfits t (List.prefix_refl t)) (hfits t (List.prefix_refl t))

theorem nil (m : Machine) : Accounts m [] m where
  after := m.after_nil.symm
  covered _ p hp := by
    rw [List.prefix_nil.1 hp]
    exact Nat.zero_le _

theorem append (h : Accounts m t m') (h' : Accounts m' t' m'') : Accounts m (t ++ t') m'' where
  after := by rw [h'.after, h.after, Machine.after_append]
  covered hfits := by
    have hfirst : Fits m t := hfits.of_prefix (List.prefix_append t t')
    have hbalance := h.balance hfirst
    have hstore : m'.store = m.store.drop (t.countP Call.asks) := by rw [h.after]; rfl
    have hopened : ∀ q, tally Call.opens m.store (t ++ q) =
        tally Call.opens m.store t + tally Call.opens m'.store q := by
      intro q
      rw [tally_append, hstore]
    have hsecond : Fits m' t' := by
      intro q hq
      have hlt := hfits (t ++ q) ((List.prefix_append_right_inj t).2 hq)
      rw [hopened, List.count_append] at hlt
      omega
    intro p hp
    rcases prefix_append_cases hp with hp | ⟨q, hq, rfl⟩
    · exact h.covered hfirst p hp
    · have hle := h'.covered hsecond q hq
      rw [hopened, List.count_append]
      omega

/-- What opens and closes no context changes nothing of the count. -/
theorem of_no_close (hclose : .closeCom ∉ t) : Accounts m t (m.after t) where
  after := rfl
  covered _ p hp := by
    rw [List.count_eq_zero.2 fun h => hclose (hp.subset h)]
    exact Nat.zero_le _

end Accounts

/-! Every call of the service. -/

/-- A call of the service with its arguments. -/
inductive Request where
  | resolve (text : String)
  | openContext (threading : Threading)
  | instantiate (manager interface : Guid) (context : ServerContext)
  | create (session : Nat) (volume : String)
  | get (session : Nat) (volume : String)
  | setLimit (record : Nat) (limit : UInt64)
  | limit (record : Nat)
  | used (record : Nat)
  | commit (record : Nat)
  | releaseRecord (record : Nat)
  | releaseSession (session : Nat)
  | closeContext

/-- What a run did, apart from what it came to. -/
def effect {σ ε α : Type} (r : Ran σ ε α) : Ran σ ε Unit := ⟨(), r.trace, r.state⟩

/-- Makes a call of the service. -/
def Request.run : Request → Machine → Ran Machine Call Unit
  | .resolve text => fun m => effect (service.resolve text m)
  | .openContext threading => fun m => effect (service.openContext threading m)
  | .instantiate manager interface context =>
    fun m => effect (service.instantiate manager interface context m)
  | .create session volume => fun m => effect (service.create session volume m)
  | .get session volume => fun m => effect (service.get session volume m)
  | .setLimit record bytes => fun m => effect (service.setLimit record bytes m)
  | .limit record => fun m => effect (service.limit record m)
  | .used record => fun m => effect (service.used record m)
  | .commit record => fun m => effect (service.commit record m)
  | .releaseRecord record => service.releaseRecord record
  | .releaseSession session => service.releaseSession session
  | .closeContext => service.closeContext

/-- Makes calls of the service one after another. -/
def serve (m : Machine) : List Request → Ran Machine Call Unit
  | [] => ⟨(), [], m⟩
  | q :: qs =>
    let r := serve (q.run m).state qs
    ⟨(), (q.run m).trace ++ r.trace, r.state⟩

theorem serve_append (m : Machine) (qs qs' : List Request) : serve m (qs ++ qs') =
    ⟨(), (serve m qs).trace ++ (serve (serve m qs).state qs').trace,
      (serve (serve m qs).state qs').state⟩ := by
  induction qs generalizing m with
  | nil => rfl
  | cons q qs ih => simp [serve, ih]

theorem accounts_effect {α : Type} {m : Machine} {r : Ran Machine Call α} {a : α} {t : List Call}
    (h : r = m.ran a t) (hclose : .closeCom ∉ t) : Accounts m (effect r).trace (effect r).state := by
  rw [h]
  exact .of_no_close hclose

theorem not_mem_of_still {t : List Call} (h : ∀ c ∈ t, c.onContext = false) : .closeCom ∉ t :=
  fun hmem => Call.ne_closeCom (h _ hmem) rfl

/-- A context is closed only if one is open. -/
theorem closeContext_accounts (m : Machine) :
    Accounts m (service.closeContext m).trace (service.closeContext m).state := by
  rw [closeContext_apply]
  refine ⟨rfl, fun _ p hp => ?_⟩
  by_cases h : 0 < m.contexts
  · have hpos : 0 < m.contexts.toNat := UInt32.lt_iff_toNat_lt.1 h
    have hle := hp.length_le
    have hcount := List.count_le_length (l := p) (a := Call.closeCom)
    rw [Machine.ran, if_pos h] at hle
    exact Nat.le_trans hcount (Nat.le_trans hle (by simp; omega))
  · rw [Machine.ran, if_neg h] at hp
    rw [List.prefix_nil.1 hp]
    exact Nat.zero_le _

/-- Every call of the service accounts for the calls of the system that it makes. -/
theorem request_accounts (q : Request) (m : Machine) :
    Accounts m (q.run m).trace (q.run m).state := by
  cases q with
  | resolve text => exact accounts_effect (resolve_apply m text) (by simp)
  | openContext threading => exact accounts_effect (openContext_apply m threading) (by simp)
  | instantiate manager interface context =>
    by_cases h : interface = managerInterface
    · subst h
      exact accounts_effect (instantiate_apply m manager context) (by simp)
    · exact accounts_effect (instantiate_of_ne m h manager context) (by simp)
  | create session volume =>
    exact accounts_effect (create_apply m session volume) (not_mem_of_still (quoted_still rfl))
  | get session volume =>
    exact accounts_effect (get_apply m session volume) (not_mem_of_still (quoted_still rfl))
  | setLimit record limit => exact accounts_effect (setLimit_apply m record limit) (by simp)
  | limit record => exact accounts_effect (limit_apply m record) (not_mem_of_still (readAs_still rfl))
  | used record => exact accounts_effect (used_apply m record) (not_mem_of_still (readAs_still rfl))
  | commit record => exact accounts_effect (commit_apply m record) (by simp)
  | releaseRecord record => exact accounts_effect (releaseRecord_apply m record) (by simp)
  | releaseSession session => exact accounts_effect (releaseSession_apply m session) (by simp)
  | closeContext => exact closeContext_accounts m

/-- Calls of the service account for their calls, by induction on how many there are. -/
theorem serve_accounts (m : Machine) (qs : List Request) :
    Accounts m (serve m qs).trace (serve m qs).state := by
  induction qs generalizing m with
  | nil => exact .nil m
  | cons q qs ih => exact (request_accounts q m).append (ih (q.run m).state)

/-! Operations. -/

/-- What is done comes down to calls of the service, one after another. -/
def Served {α : Type} (x : Machine → Ran Machine Call α) : Prop :=
  ∀ m, ∃ qs, effect (x m) = serve m qs

namespace Served

variable {φ α β : Type}

theorem accounts {x : Machine → Ran Machine Call α} (hx : Served x) (m : Machine) :
    Accounts m (x m).trace (x m).state := by
  obtain ⟨qs, hqs⟩ := hx m
  have h := serve_accounts m qs
  rwa [← hqs] at h

theorem of_request {x : Machine → Ran Machine Call α} (q : Request)
    (hx : ∀ m, effect (x m) = q.run m) : Served x := by
  refine fun m => ⟨[q], ?_⟩
  rw [hx, serve, serve, List.append_nil]

protected theorem pure (a : α) : Served (pure a : Task Machine Call φ α) := fun _ => ⟨[], rfl⟩

/-- One after another. -/
theorem append {x : Machine → Ran Machine Call α} {y : Machine → Ran Machine Call β} (hx : Served x)
    (hy : Served y) (m : Machine) : ∃ qs,
      (⟨(), (x m).trace ++ (y (x m).state).trace, (y (x m).state).state⟩ : Ran Machine Call Unit) =
        serve m qs := by
  obtain ⟨qs, hqs⟩ := hx m
  obtain ⟨qs', hqs'⟩ := hy (x m).state
  have hstate : (x m).state = (serve m qs).state := by rw [← hqs]; rfl
  refine ⟨qs ++ qs', ?_⟩
  rw [serve_append, ← hstate, ← hqs, ← hqs']
  rfl

protected theorem bind {x : Task Machine Call φ α} {f : α → Task Machine Call φ β}
    (hx : Served x) (hf : ∀ a, Served (f a)) : Served (x >>= f) := by
  intro m
  cases hv : (x m).value with
  | ok a =>
    rw [Task.bind_apply_ok hv]
    exact hx.append (hf a) m
  | error e =>
    rw [Task.bind_apply_error hv]
    exact hx m

protected theorem attempt {call : Task Machine Call Status α} {step : Step} (h : Served call) :
    Served (attempt step call).bare := by
  rw [Task.bare_attempt]
  exact h

protected theorem ensuring {x : Task Machine Call φ α} {cleanup : Machine → Ran Machine Call Unit}
    (hx : Served x) (hcleanup : Served cleanup) : Served (x.ensuring cleanup) :=
  hx.append hcleanup

end Served

/-- Everything that operations are made of comes down to calls of the service. -/
theorem service_served : service.Closed fun x => Served x.bare where
  pure := .pure
  note _ := .pure ()
  bind hx hf := by
    rw [Task.bare_bind]
    exact hx.bind hf
  inSpan _ hx := by
    rw [Task.bare_inSpan]
    exact hx
  resolve _ text := .attempt (.of_request (.resolve text) fun _ => rfl)
  openContext _ threading := .attempt (.of_request (.openContext threading) fun _ => rfl)
  instantiate _ manager interface context :=
    .attempt (.of_request (.instantiate manager interface context) fun _ => rfl)
  create _ session volume := .attempt (.of_request (.create session volume) fun _ => rfl)
  get _ session volume := .attempt (.of_request (.get session volume) fun _ => rfl)
  setLimit _ record limit := .attempt (.of_request (.setLimit record limit) fun _ => rfl)
  limit _ record := .attempt (.of_request (.limit record) fun _ => rfl)
  used _ record := .attempt (.of_request (.used record) fun _ => rfl)
  commit _ record := .attempt (.of_request (.commit record) fun _ => rfl)
  withRecord record hx := by
    rw [Service.withRecord, Task.bare_ensuring]
    exact hx.ensuring (.of_request (.releaseRecord record) fun _ => rfl)
  withSession session hx := by
    rw [Task.bare_ensuring]
    exact hx.ensuring (.of_request (.releaseSession session) fun _ => rfl)
  withContext hx := by
    rw [Task.bare_ensuring]
    exact hx.ensuring (.of_request .closeContext fun _ => rfl)

/-- An operation accounts for its calls, on every path. -/
theorem run_accounts (settings : Settings) (op : Operation) (m : Machine) :
    Accounts m (calls (op.run service settings m).trace) (op.run service settings m).state :=
  (service_served.run settings op).accounts m

/-! Scripts. -/

/-- Whether a command is for the service at hand and not for one of its own. -/
def onService : Command Control → Bool
  | .control (.alone _) | .control (.exported _) => false
  | _ => true

theorem native_served (settings : Settings) (call : Native.Call) (m : Machine) : ∃ qs,
    (⟨(), calls (call.run service settings m).trace, (call.run service settings m).state⟩ :
      Ran Machine Call Unit) = serve m qs := by
  rw [Native.Call.run_eq]
  cases call.operation with
  | ok op => exact service_served.run settings op m
  | error code => exact ⟨[], rfl⟩

theorem control_served (k : Control) (hk : onService (.control k) = true) (m : Machine) : ∃ qs,
    (⟨(), calls (k.run m).trace, (k.run m).state⟩ : Ran Machine Call Unit) = serve m qs := by
  cases k with
  | resolveIdentifier text =>
    rw [Control.run, calls_map_call]
    exact Served.of_request (x := service.resolve text) (.resolve text) (fun _ => rfl) m
  | openContext threading =>
    rw [Control.run, calls_map_call]
    exact Served.of_request (x := service.openContext threading) (.openContext threading) (fun _ => rfl) m
  | closeContext =>
    rw [Control.run, calls_map_call]
    exact Served.of_request (x := service.closeContext) .closeContext (fun _ => rfl) m
  | alone op => cases hk
  | exported call => cases hk

/-- A command for the service comes down to calls of the service. -/
theorem step_served (s : Standing Machine Call) (c : Command Control) (hc : onService c = true) :
    ∃ qs, (⟨(), calls (bench.step s c).journal, (bench.step s c).standing.state⟩ :
      Ran Machine Call Unit) = serve s.state qs := by
  cases c with
  | operation op => exact service_served.run s.settings op s.state
  | native call => exact native_served s.settings call s.state
  | reconfigure document =>
    rw [Bench.step]
    split <;> exact ⟨[], rfl⟩
  | startLogging filter => exact ⟨[], rfl⟩
  | control k => exact control_served k hc s.state

/-- A script of commands for the service comes down to calls of the service, by induction on its
length. -/
theorem script_served (s : Standing Machine Call) (cs : List (Command Control))
    (hcs : ∀ c ∈ cs, onService c = true) : ∃ qs,
      (⟨(), scriptCalls (bench.run s cs), (bench.standing s cs).state⟩ : Ran Machine Call Unit) =
        serve s.state qs := by
  induction cs generalizing s with
  | nil => exact ⟨[], rfl⟩
  | cons c cs ih =>
    obtain ⟨qs, hqs⟩ := step_served s c (hcs c (by simp))
    obtain ⟨qs', hqs'⟩ := ih (bench.step s c).standing fun d hd => hcs d (by simp [hd])
    have hstate : (bench.step s c).standing.state = (serve s.state qs).state := by rw [← hqs]
    refine ⟨qs ++ qs', ?_⟩
    rw [serve_append, ← hstate, ← hqs, ← hqs']
    rfl

theorem script_accounts (s : Standing Machine Call) (cs : List (Command Control))
    (hcs : ∀ c ∈ cs, onService c = true) :
    Accounts s.state (scriptCalls (bench.run s cs)) (bench.standing s cs).state := by
  obtain ⟨qs, hqs⟩ := script_served s cs hcs
  have h := serve_accounts s.state qs
  rwa [← hqs] at h

/-- **No context is closed that was not opened.** Whatever is asked of a fresh service, in any order and
over any outcomes, at no point has it closed more contexts than it opened. What was asked comes down to
calls of the service, and between any two of them its count is the difference of the two. A context
counts as opened by any success, whatever its code. -/
theorem script_balanced (settings : Settings) (past : List Call) (s : System)
    (cs : List (Command Control)) (hcs : ∀ c ∈ cs, onService c = true)
    (hfits : ∀ p, p <+: scriptCalls (bench.run ⟨settings, ⟨0, s⟩, past⟩ cs) →
      tally Call.opens s.outcomes p < p.count .closeCom + UInt32.size) :
    (∀ p, p <+: scriptCalls (bench.run ⟨settings, ⟨0, s⟩, past⟩ cs) →
      p.count .closeCom ≤ tally Call.opens s.outcomes p) ∧
    (∀ before rest, cs = before ++ rest →
      (bench.standing ⟨settings, ⟨0, s⟩, past⟩ before).state.contexts.toNat +
          (scriptCalls (bench.run ⟨settings, ⟨0, s⟩, past⟩ before)).count .closeCom =
        tally Call.opens s.outcomes (scriptCalls (bench.run ⟨settings, ⟨0, s⟩, past⟩ before))) ∧
    ∃ qs, scriptCalls (bench.run ⟨settings, ⟨0, s⟩, past⟩ cs) = (serve ⟨0, s⟩ qs).trace ∧
      (bench.standing ⟨settings, ⟨0, s⟩, past⟩ cs).state = (serve ⟨0, s⟩ qs).state ∧
      ∀ before, before <+: qs →
        (serve ⟨0, s⟩ before).state.contexts.toNat + (serve ⟨0, s⟩ before).trace.count .closeCom =
          tally Call.opens s.outcomes (serve ⟨0, s⟩ before).trace := by
  have hall : Fits ⟨0, s⟩ (scriptCalls (bench.run ⟨settings, ⟨0, s⟩, past⟩ cs)) := by
    intro p hp
    have hlt := hfits p hp
    simpa [Machine.store] using hlt
  refine ⟨?_, ?_, ?_⟩
  · intro p hp
    have hle := (script_accounts ⟨settings, ⟨0, s⟩, past⟩ cs hcs).covered hall p hp
    simpa [Machine.store] using hle
  · rintro before rest rfl
    -- what was called before is a first part of all that was called
    have hpart : scriptCalls (bench.run ⟨settings, ⟨0, s⟩, past⟩ before) <+:
        scriptCalls (bench.run ⟨settings, ⟨0, s⟩, past⟩ (before ++ rest)) := by
      rw [Bench.run_append, scriptCalls, scriptCalls, List.flatMap_append]
      exact List.prefix_append _ _
    have hbefore := script_accounts ⟨settings, ⟨0, s⟩, past⟩ before fun c hc => hcs c (by simp [hc])
    have hbalance := hbefore.balance (hall.of_prefix hpart)
    simpa [Machine.store] using hbalance
  · obtain ⟨qs, hqs⟩ := script_served ⟨settings, ⟨0, s⟩, past⟩ cs hcs
    have htrace : scriptCalls (bench.run ⟨settings, ⟨0, s⟩, past⟩ cs) = (serve ⟨0, s⟩ qs).trace :=
      congrArg Ran.trace hqs
    refine ⟨qs, htrace, congrArg Ran.state hqs, ?_⟩
    rintro before ⟨rest, rfl⟩
    have hpart : (serve ⟨0, s⟩ before).trace <+: (serve ⟨0, s⟩ (before ++ rest)).trace := by
      rw [serve_append]
      exact List.prefix_append _ _
    rw [← htrace] at hpart
    have hbalance := (serve_accounts ⟨0, s⟩ before).balance (hall.of_prefix hpart)
    simpa [Machine.store] using hbalance

/-- A trace that is shorter than the count is long cannot overflow it. -/
theorem fits_of_length {os : List Outcome} {t : List Call} (h : t.length < UInt32.size) :
    ∀ p, p <+: t → tally Call.opens os p < p.count .closeCom + UInt32.size := by
  intro p hp
  have htally := tally_le_countP Call.opens os (p := fun _ => true) (fun _ _ _ => rfl) p
  have hlen := hp.length_le
  rw [List.countP_true] at htally
  omega

/-- A success that is not zero opens a context; a failure opens none, and closing once too often closes
none. -/
theorem script_balanced_surplus :
    (∀ c ∈ [.control .closeContext, .control (.openContext .apartment), .operation (.setQuota "D:" 5),
      .control .closeContext], onService c = true) ∧
    scriptCalls (bench.run
        ⟨.default, .initial [.code ⟨1⟩, .success, .success, .code .unspecified], []⟩
        [.control .closeContext, .control (.openContext .apartment), .operation (.setQuota "D:" 5),
          .control .closeContext]) =
      [.openCom 2, .iidFromString Settings.default.managerClass,
        .iidFromString Settings.default.managerInterface, .openCom 2, .closeCom] ∧
    ∀ p, p <+: scriptCalls (bench.run
        ⟨.default, .initial [.code ⟨1⟩, .success, .success, .code .unspecified], []⟩
        [.control .closeContext, .control (.openContext .apartment), .operation (.setQuota "D:" 5),
          .control .closeContext]) →
      p.count .closeCom ≤ tally Call.opens [.code ⟨1⟩, .success, .success, .code .unspecified] p :=
  ⟨by decide, by decide,
    (script_balanced .default [] (.initial [.code ⟨1⟩, .success, .success, .code .unspecified])
      [.control .closeContext, .control (.openContext .apartment), .operation (.setQuota "D:" 5),
        .control .closeContext] (by decide) (fits_of_length (by decide))).1⟩

end DiskQuota.Fsrm
