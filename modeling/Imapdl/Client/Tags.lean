import Imapdl.Client.Ingest

/-!
# imapdl - Tags and the tagged responses that answer them

The writer draws the tag of every command from {lit}`tags_`, and the dispatch files that tag in
{lit}`tag_to_state_` before {lit}`do_write`; {lit}`imap_tagged_status_end` accepts only an OK
for a filed tag, and erases it before {lit}`command()` files the next one.  Over every run the
registry therefore keeps an exact account of the conversation: the commands written carry the
tags A1, A2, ... in the order written, and the tagged OKs processed so far answered exactly
those commands, in the same order, all but the pending one, whose tag the registry holds.  Every
entry of the registry is removed once, by the OK of its own command.

Main definitions:

- Definition {lit}`Command.tag`: the tag a command carries.
- Definition {lit}`answered`: the tags of the tagged OKs along a history.

Main results:

- Theorem {lit}`Client.command_issued`: a dispatch from an empty registry writes at most one
  command, under the tag it files.
- Theorem {lit}`Client.tags_answered_in_order`: along every run the commands written carry
  A1, ..., An, and the tagged OKs answered all of them but the pending one, in order.
-/

namespace Imapdl

/-- The tag a command carries. -/
def Command.tag : Command → String
  | .capability tag | .login _ _ tag | .select _ tag | .fetch _ _ tag | .uidStore _ _ _ _ tag
  | .uidExpunge _ tag | .expunge tag | .logout tag => tag

/-- The tag a tagged OK answers, if the event is one. -/
def Event.okTag? : Event → Option String
  | .callback (.taggedStatusEnd tag .ok) => some tag
  | _ => none

/-- The tags of the tagged OKs along a history, in order. -/
def answered (h : List (State × Event)) : List String := h.filterMap (·.2.okTag?)

theorem answered_append_ok (h : List (State × Event)) (s : State) (tag : String) :
    answered (h ++ [(s, .callback (.taggedStatusEnd tag .ok))]) = answered h ++ [tag] := by
  simp [answered, Event.okTag?]

theorem answered_append_of (h : List (State × Event)) (s : State) {e : Event}
    (he : ∀ tag, e ≠ .callback (.taggedStatusEnd tag .ok)) :
    answered (h ++ [(s, e)]) = answered h := by
  have hn : e.okTag? = none := by
    unfold Event.okTag?
    split
    · exact absurd rfl (he _)
    · rfl
  simp [answered, hn]

namespace Client

/-- What a dispatch from an empty registry does with the tags: it writes and files nothing, or it
writes one command under the tag it draws and files that tag alone. -/
def Issued (c c' : Client) : Prop :=
  (c'.tagToState = [] ∧ c'.writes.map Command.tag = c.writes.map Command.tag ∧
      c'.tags = c.tags) ∨
    (c'.tagToState.map Prod.fst = [tagName c.tags] ∧
      c'.writes.map Command.tag = c.writes.map Command.tag ++ [tagName c.tags] ∧
      c'.tags = c.tags + 1)

/-- A dispatch from an empty registry files the tag of the one command it writes, if any. -/
theorem command_issued {o : Options} {c c' : Client} (hs : c.state ∈ State.dispatched)
    (hm : c.tagToState = []) (h : c.command o = .ok c') : c.Issued c' := by
  cases command_dispatch hs h
  case quit =>
    exact .inl ⟨by simpa [doQuit, doShutdown, emit, probe] using hm,
      by simp [writes, doQuit, doShutdown, emit, probe],
      by simp only [doQuit, doShutdown, emit, probe]⟩
  all_goals
    refine .inr ⟨?_, ?_, ?_⟩ <;>
      simp only [hm, writes, Command.tag, request, register, doWrite, doSelect, doFetch,
        doLogout, doStore, doUidOrSimpleExpunge, doUidExpunge, doExpunge, startFetchTimer,
        resumeFetchTimer, stopFetchTimer, assign, probe, emit, setTag, apply_ite, List.filter_nil,
        List.map_cons, List.map_nil, List.filterMap_append, List.filterMap_cons, List.filterMap_nil,
        List.map_append, List.append_nil, ite_self]

/-- A request from an empty registry files the tag of the command it writes. -/
theorem request_issued {c : Client} {cmd : String → Command} (next : State)
    (hm : c.tagToState = []) (hcmd : ∀ t, (cmd t).tag = t) : c.Issued (c.request cmd next) :=
  .inr ⟨by simp [request, register, doWrite, emit, setTag, hm],
    by simp [writes, request, register, doWrite, emit, hcmd], rfl⟩

/-! ## The account the registry keeps -/

/-- The account of the tags after the tagged OKs {lit}`l`: the commands written carry A1, ...,
An, the counter has drawn exactly their tags, and they are the tags answered followed by the
one pending. -/
structure TagsAnswered (c : Client) (l : List String) : Prop where
  sequential :
    c.writes.map Command.tag = (List.range c.writes.length).map fun i => tagName (i + 1)
  counter : c.tags = c.writes.length + 1
  inOrder : c.writes.map Command.tag = l ++ c.tagToState.map Prod.fst

theorem new_tagsAnswered : new.TagsAnswered [] where
  sequential := by simp [new, init, writes, doSignalWait, doResolve, emit]
  counter := by simp [new, init, writes, doSignalWait, doResolve, emit]
  inOrder := by simp [new, init, writes, doSignalWait, doResolve, emit]

/-- The account depends only on the commands written, the registry and the counter. -/
theorem TagsAnswered.congr {c c' : Client} {l : List String} (t : c.TagsAnswered l)
    (hw : c'.writes = c.writes) (hm : c'.tagToState = c.tagToState) (ht : c'.tags = c.tags) :
    c'.TagsAnswered l where
  sequential := by rw [hw]; exact t.sequential
  counter := by rw [ht, hw]; exact t.counter
  inOrder := by rw [hw, hm]; exact t.inOrder

/-- A dispatch from an empty registry keeps the account. -/
theorem TagsAnswered.issued {d c' : Client} {l : List String} (t : d.TagsAnswered l)
    (hm : d.tagToState = []) (hi : d.Issued c') : c'.TagsAnswered l := by
  rcases hi with ⟨hm', hw, ht⟩ | ⟨hm', hw, ht⟩
  · have hl : c'.writes.length = d.writes.length := by simpa using congrArg List.length hw
    exact ⟨by rw [hw, hl]; exact t.sequential, by rw [ht, hl]; exact t.counter,
      by rw [hw, hm', t.inOrder, hm]⟩
  · have hl : c'.writes.length = d.writes.length + 1 := by simpa using congrArg List.length hw
    refine ⟨?_, by rw [ht, hl, t.counter], by rw [hw, hm', t.inOrder, hm]; simp⟩
    rw [hw, hl, t.sequential, List.range_succ, List.map_append, t.counter]
    rfl

/-- Every step keeps the account, a tagged OK adding its tag to the answered ones. -/
theorem step_tagsAnswered {o : Options} {c c' : Client} {e : Event} {h : List (State × Event)}
    (g : c.Good) (he : c.enabled e = true) (hs : c.step o e = .ok c')
    (t : c.TagsAnswered (answered h)) : c'.TagsAnswered (answered (h ++ [(c.state, e)])) := by
  rcases step_cases g he hs with ⟨tag, rfl, hm, hw, hc⟩ | ⟨cb, rfl, ht, hc⟩ |
    ⟨rfl, -, hm, ⟨-, rfl⟩ | ⟨-, hc⟩⟩ | ⟨-, hcb, q⟩
  · rw [answered_append_ok]
    have td : ({ c.assign c.state.succ with tagToState := [] } : Client).TagsAnswered
        (answered h ++ [tag]) :=
      ⟨t.sequential, t.counter, by simpa [writes, assign, hm] using t.inOrder⟩
    exact td.issued rfl (command_issued (State.succ_mem_dispatched hw) rfl hc)
  · obtain ⟨hl, hm, -, htags, -⟩ := callback_log ht hc
    rw [answered_append_of _ _ fun tag h => ht tag .ok (Event.callback.inj h)]
    exact t.congr (by simp only [writes, hl]) hm htags
  · rw [answered_append_of _ _ fun _ h => by cases h]
    exact t.issued hm (request_issued _ hm fun _ => rfl)
  · rw [answered_append_of _ _ fun _ h => by cases h]
    have hi := command_issued (by simp) (by simpa [assign, probe] using hm) hc
    exact t.issued hm hi
  · rw [answered_append_of _ _ fun tag h => hcb _ h]
    exact t.congr q.writes q.tagToState q.tags

/-! ## Along every run -/

theorem Run.tagsAnswered {o : Options} {c : Client} {h : List (State × Event)} (r : Run o c h) :
    c.TagsAnswered (answered h) := by
  induction r with
  | start => exact new_tagsAnswered
  | step r he hs ih => exact step_tagsAnswered r.good he hs ih

/-- Along every run, the commands written carry the tags A1, ..., An in the order written, and
the tagged OKs processed so far answered exactly these commands, in the same order, all but the
pending one, whose tag the registry holds. -/
theorem tags_answered_in_order {o : Options} {c : Client} {h : List (State × Event)}
    (r : Run o c h) :
    c.writes.map Command.tag = (List.range c.writes.length).map (fun i => tagName (i + 1)) ∧
      c.writes.map Command.tag = answered h ++ c.tagToState.map Prod.fst :=
  ⟨r.tagsAnswered.sequential, r.tagsAnswered.inOrder⟩

theorem tags_answered_in_order_fetching :
    ∃ h, Run sampleOptions fetchingClient h ∧
      (fetchingClient.writes.map Command.tag =
          (List.range fetchingClient.writes.length).map (fun i => tagName (i + 1)) ∧
        fetchingClient.writes.map Command.tag =
          answered h ++ fetchingClient.tagToState.map Prod.fst) :=
  let ⟨h, r⟩ := fetchingClient_reachable
  ⟨h, r, tags_answered_in_order r⟩

end Client

end Imapdl
