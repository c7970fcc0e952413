import Imapdl.Client.Invariant
import Imapdl.Protocol

/-!
# imapdl - The client conducts the conversation

The client refines the machine of {lit}`Imapdl.Protocol`.  {lit}`Client.stage` reads the stage
off the state and the registry; every step of the event loop either leaves the stage and the
commands written alone, or is the greeting timer or the tagged OK of the pending command and
takes exactly one step of {lit}`Stage.next`, from what the client holds at that moment, writing
exactly the commands that step names.  Along every run the commands written therefore follow a
script, and each choice between scripts is made from the capabilities, the message count and
the options as they are when the timer fires or the OK is processed.  The capabilities
consulted after LOGIN are all tokens the server reported after {lit}`do_login` cleared them.

Main results:

- Theorem {lit}`Client.step_refines`: one step of the client is a stutter or one step of the
  machine.
- Theorem {lit}`Client.conversation`: along every run, the commands written are a prefix of a
  script, every step refines the machine, and the capabilities after LOGIN were reported after it.
-/

namespace Imapdl

/-- The stage whose completion a dispatch from a state carries out. -/
def Stage.ofDispatch : State → Stage
  | .gotInitialCapabilities => .initialCapability
  | .loggedIn => .login
  | .gotCapabilities => .capability
  | .selectedMailbox => .select
  | .fetched => .fetch
  | .stored => .store
  | .expunged => .expunge
  | .loggedOut => .logout
  | _ => .done

namespace Client

/-- The stage a client is at: read off the state, and in ESTABLISHED off whether CAPABILITY is
pending. -/
def stage (c : Client) : Stage :=
  match c.state with
  | .disconnected => .greeting
  | .established => if c.tagToState = [] then .greeting else .initialCapability
  | .gotInitialCapabilities => .login
  | .loggedIn => .capability
  | .gotCapabilities => .select
  | .fetching => .fetch
  | .fetched => .store
  | .stored => .expunge
  | .loggingOut => .logout
  | _ => .done

/-- What the client consults when a stage completes. -/
def view (o : Options) (c : Client) : View := ⟨c.capabilities, c.exists_, o.del⟩

/-- The kinds of the commands written so far. -/
def kinds (c : Client) : List Kind := c.writes.map Command.kind

/-! ## One step -/

/-- A dispatch carries out the completion of the stage it is dispatched for. -/
theorem command_refines {o : Options} {c c' : Client} (hs : c.state ∈ State.dispatched)
    (h : c.command o = .ok c') :
    ∃ ks, (Stage.ofDispatch c.state).next (c.view o) = some (ks, c'.stage) ∧
      c'.kinds = c.kinds ++ ks := by
  cases command_dispatch hs h
  all_goals
    clear h hs
    by_cases hu : Capability.uidPlus ∈ c.capabilities <;>
    simp [*, Stage.ofDispatch.eq_def, Stage.next, Stage.login?, view, stage, kinds, writes,
      Command.kind, hasUidplus]

/-- The stage depends on the state and the registry only. -/
theorem stage_congr {c c' : Client} (hs : c'.state = c.state) (hm : c'.tagToState = c.tagToState) :
    c'.stage = c.stage := by
  unfold stage
  rw [hs, hm]

/-- A pending command's dispatch is for the stage the client is at. -/
theorem ofDispatch_succ {c : Client} (hw : c.state ∈ State.waiting) (hm : c.tagToState ≠ []) :
    Stage.ofDispatch c.state.succ = c.stage := by
  simp only [State.waiting, List.mem_cons, List.not_mem_nil, or_false] at hw
  rcases hw with hw | hw | hw | hw | hw | hw | hw | hw <;>
    simp [stage, Stage.ofDispatch.eq_def, hw, hm]

/-- One step of the client is a stutter, which leaves the stage and the commands written alone,
or one step of the conversation: the greeting timer or the tagged OK of the pending command
completes the stage, and the commands written are those {lit}`Stage.next` names for what the
client holds at that moment. -/
theorem step_refines {o : Options} {c c' : Client} {e : Event} (g : c.Good)
    (he : c.enabled e = true) (h : c.step o e = .ok c') :
    ((∀ r, e ≠ .loginTimer r) ∧ (∀ tag s, e ≠ .callback (.taggedStatusEnd tag s)) ∧
        c'.stage = c.stage ∧ c'.writes = c.writes) ∨
      ((e = .loginTimer none ∨ ∃ tag, e = .callback (.taggedStatusEnd tag .ok)) ∧
        ∃ ks, c.stage.next (c.view o) = some (ks, c'.stage) ∧ c'.kinds = c.kinds ++ ks) := by
  rcases step_cases g he h with ⟨tag, rfl, hm, hw, h⟩ | ⟨cb, rfl, ht, h⟩ |
    ⟨rfl, hs, hm, hcases⟩ | ⟨hq, hcb, q⟩
  · obtain ⟨ks, hn, hk⟩ := command_refines (State.succ_mem_dispatched hw) h
    refine .inr ⟨.inr ⟨tag, rfl⟩, ks, ?_, hk⟩
    rw [← ofDispatch_succ hw (by simp [hm])]
    exact hn
  · obtain ⟨hl, -⟩ := callback_log ht h
    have f := callback_frame ht h
    refine .inl ⟨nofun, fun tag s he => ht tag s (Event.callback.inj he),
      stage_congr f.state f.tagToState, by simp only [writes, hl]⟩
  · have hg : c.stage = .greeting := by simp [stage, hs, hm]
    rcases hcases with ⟨hc, rfl⟩ | ⟨hc, h⟩
    · refine .inr ⟨.inl rfl, [.capability], ?_, ?_⟩
      · rw [hg]
        simp [Stage.next, view, hc, stage, hs, setTag]
      · simp [kinds, writes, Command.kind]
    · obtain ⟨ks, hn, hk⟩ := command_refines (by simp) h
      refine .inr ⟨.inl rfl, ks, ?_, hk⟩
      simp only [hg, Stage.next, view, if_neg hc]
      exact hn
  · refine .inl ⟨hq, fun tag s => hcb _, ?_, q.writes⟩
    rcases q.state with hs | ⟨⟨r, rfl⟩, hs⟩
    · exact stage_congr hs q.tagToState
    · simp only [enabled, Bool.and_eq_true, bne_iff_ne] at he
      have hd := g.openingState (by omega)
      have hm : c.tagToState = [] := by
        rcases g.tags with ⟨hm, -⟩ | ⟨t, -, hw⟩
        · exact hm
        · simp [hd] at hw
      simp [stage, hd, hs, hm, q.tagToState]

/-! ## Along every run -/

/-- Every run of the client is a trace of the conversation. -/
theorem Run.trace {o : Options} {c : Client} {h : List (State × Event)} (r : Run o c h) :
    Stage.Trace c.stage c.kinds := by
  induction r with
  | start => exact .greeting
  | step r he hs ih =>
    rcases step_refines r.good he hs with ⟨-, -, hst, hw⟩ | ⟨-, ks, hn, hk⟩
    · rw [hst, kinds, hw]
      exact ih
    · rw [hk]
      exact .next _ ih hn

/-! ## The capabilities after LOGIN -/

/-- Past ESTABLISHED, that is once {lit}`do_login` has cleared the set, every capability the
client holds was reported by {lit}`imap_capability` in a state past ESTABLISHED. -/
def CapsAfterLogin (h : List (State × Event)) (c : Client) : Prop :=
  State.established < c.state →
    ∀ x ∈ c.capabilities, ∃ s, State.established < s ∧ (s, Event.callback (.capability x)) ∈ h

theorem CapsAfterLogin.mono {h h' : List (State × Event)} {c : Client} (hc : CapsAfterLogin h c)
    (hh : h ⊆ h') : CapsAfterLogin h' c :=
  fun hs x hx => (hc hs x hx).imp fun _ ⟨hlt, hm⟩ => ⟨hlt, hh hm⟩

theorem State.established_lt {s : State} (hw : s ∈ State.waiting)
    (hne : s.succ ≠ .gotInitialCapabilities) : State.established < s := by
  simp only [State.waiting, List.mem_cons, List.not_mem_nil, or_false] at hw
  rcases hw with rfl | rfl | rfl | rfl | rfl | rfl | rfl | rfl <;> simp_all

/-- Every step keeps the provenance of the capabilities after LOGIN. -/
theorem step_capsAfterLogin {o : Options} {c c' : Client} {e : Event}
    {h : List (State × Event)} (g : c.Good) (he : c.enabled e = true)
    (hs : c.step o e = .ok c') (hc : CapsAfterLogin h c) :
    CapsAfterLogin (h ++ [(c.state, e)]) c' := by
  have hc' : CapsAfterLogin (h ++ [(c.state, e)]) c := hc.mono (List.subset_append_left h _)
  intro hlt x hx
  rcases step_cases g he hs with ⟨-, -, -, hw, hs⟩ | ⟨cb, rfl, ht, hs⟩ |
    ⟨-, hst, -, ⟨-, rfl⟩ | ⟨-, hs⟩⟩ | ⟨-, -, q⟩
  · have hcap := command_capabilities (State.succ_mem_dispatched hw) hs
    simp only [assign] at hcap
    split_ifs at hcap with hg
    · simp [hcap] at hx
    · exact hc' (State.established_lt hw hg) x (hcap ▸ hx)
  · obtain ⟨-, -, -, -, -, hcap⟩ := callback_log ht hs
    rw [(callback_frame ht hs).state] at hlt
    rcases hcap with hcap | hcap | ⟨y, rfl, hcap⟩
    · exact hc' hlt x (hcap ▸ hx)
    · simp [hcap] at hx
    · rw [hcap, List.mem_insert_iff] at hx
      rcases hx with rfl | hx
      · exact ⟨c.state, hlt, by simp⟩
      · exact hc' hlt x hx
  · simp [hst] at hlt
  · have hcap := command_capabilities (by simp) hs
    simp [hcap] at hx
  · rcases q.state with hst | ⟨-, hst⟩
    · exact hc' (hst ▸ hlt) x (q.capabilities ▸ hx)
    · simp [hst] at hlt

theorem Run.capsAfterLogin {o : Options} {c : Client} {h : List (State × Event)}
    (r : Run o c h) : CapsAfterLogin h c := by
  induction r with
  | start => intro hlt; simp [new, init, doSignalWait, doResolve, emit] at hlt
  | step r he hs ih => exact step_capsAfterLogin r.good he hs ih

/-! ## The conversation of every run -/

/-- Along every run: the commands handed to {lit}`do_write` are a prefix of a script; every next
step of the client either leaves the stage and the commands alone or is the greeting timer or
the tagged OK of the pending command and writes what {lit}`Stage.next` chooses from the
capabilities, the message count and the options at that moment (so CAPABILITY first exactly
when the capabilities are empty as the timer fires, LOGIN never with LOGINDISABLED among them,
CAPABILITY again exactly when they are empty as LOGIN's OK is processed, LOGOUT after SELECT
exactly when {lit}`exists_` is 0, UID EXPUNGE exactly when UIDPLUS is known as STORE's OK is
processed); and once past ESTABLISHED, every capability held was reported after LOGIN. -/
theorem conversation {o : Options} {c : Client} {h : List (State × Event)} (r : Run o c h) :
    (∃ first second, ∃ tail ∈ tails, c.kinds <+: script first second tail) ∧
    (∀ e c', c.enabled e = true → c.step o e = .ok c' →
      ((∀ r, e ≠ .loginTimer r) ∧ (∀ tag s, e ≠ .callback (.taggedStatusEnd tag s)) ∧
          c'.stage = c.stage ∧ c'.writes = c.writes) ∨
        ((e = .loginTimer none ∨ ∃ tag, e = .callback (.taggedStatusEnd tag .ok)) ∧
          ∃ ks, c.stage.next (c.view o) = some (ks, c'.stage) ∧ c'.kinds = c.kinds ++ ks)) ∧
    (State.established < c.state → ∀ x ∈ c.capabilities,
      ∃ s, State.established < s ∧ (s, Event.callback (.capability x)) ∈ h) :=
  ⟨r.trace.prefix_script, fun _ _ he hs => step_refines r.good he hs, r.capsAfterLogin⟩

theorem conversation_fetching :
    ∃ h, Run sampleOptions fetchingClient h ∧
      ((∃ first second, ∃ tail ∈ tails, fetchingClient.kinds <+: script first second tail) ∧
      (∀ e c', fetchingClient.enabled e = true → fetchingClient.step sampleOptions e = .ok c' →
        ((∀ r, e ≠ .loginTimer r) ∧ (∀ tag s, e ≠ .callback (.taggedStatusEnd tag s)) ∧
            c'.stage = fetchingClient.stage ∧ c'.writes = fetchingClient.writes) ∨
          ((e = .loginTimer none ∨ ∃ tag, e = .callback (.taggedStatusEnd tag .ok)) ∧
            ∃ ks, fetchingClient.stage.next (fetchingClient.view sampleOptions) =
              some (ks, c'.stage) ∧ c'.kinds = fetchingClient.kinds ++ ks)) ∧
      (State.established < fetchingClient.state → ∀ x ∈ fetchingClient.capabilities,
        ∃ s, State.established < s ∧ (s, Event.callback (.capability x)) ∈ h)) :=
  let ⟨h, r⟩ := fetchingClient_reachable
  ⟨h, r, conversation r⟩

end Client

end Imapdl
