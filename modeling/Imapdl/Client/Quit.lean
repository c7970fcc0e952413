import Imapdl.Client.Ingest

/-!
# imapdl - Quitting

{lit}`do_quit` cancels the operations of the transport and starts the TLS shutdown.  It cancels
neither {lit}`login_timer_` nor {lit}`fetch_timer_`, and {lit}`signals_` is cancelled only when the
shutdown completes, so events keep arriving after it: the greeting timer can still write a
command, a tick of the fetch timer re-arms it, and a signal after the quit of LOGGED_OUT quits a
second time.  What quitting does guarantee is narrower, and holds over every run: once LOGGED_OUT
is reached, no command is written again, and once a signal has made the session quit, every
later signal raises the fatal "second time" error instead of quitting again.

Main results:

- Theorem {lit}`Client.quit_not_final`: three runs in which an event after {lit}`do_quit` writes a
  command, re-arms the fetch timer, or quits a second time.
- Theorem {lit}`Client.quit_guarantees`: from LOGGED_OUT no event writes a command, and after a
  signal's quit a signal only raises.
-/

namespace Imapdl
namespace Client

/-! ## Runs after a quit -/

/-- A signal while the greeting timer is armed, then the timer. -/
def signalDuringGreeting : List Event :=
  [.resolved none, .connected none, .handshaken none, .signal none 2, .loginTimer none]

/-- A signal while fetching, then a tick of the fetch timer. -/
def signalWhileFetching : List Event := toFetching ++ [.signal none 2, .fetchTimer none]

/-- The spec's session with deletion, through FETCH, STORE, EXPUNGE and LOGOUT, whose tagged OK
makes {lit}`command()` quit in LOGGED_OUT. -/
def toLoggedOut : List Event :=
  toFetching ++ Event.readData :: (fetchResponse 1 [.uid 3, .body (some ["BODY1".toList])] ++
    ["A4", "A5", "A6", "A7"].map (Callback.taggedStatusEnd · .ok)).map Event.callback ++
    [.readEnd]

/-- {lit}`do_quit` is not final.  A signal during the greeting wait quits, and the greeting timer
then writes CAPABILITY; a signal while fetching quits, and the next tick re-arms the fetch timer;
the tagged OK of LOGOUT quits in LOGGED_OUT, and a signal then quits a second time, with a second
cancel and a second shutdown. -/
theorem quit_not_final :
    (new.exec sampleOptions signalDuringGreeting).map (·.log.drop 6) =
      some [.waitSignal, .cancel, .shutdown, .write (.capability "A1")] ∧
    (new.exec sampleOptions signalWhileFetching).map (·.log.drop 12) =
      some [.waitSignal, .cancel, .shutdown, .armFetchTimer] ∧
    (new.exec sampleOptions toLoggedOut).map (fun c => (c.state, c.log.drop 15)) =
      some (.loggedOut, [.write (.logout "A7"), .cancel, .shutdown]) ∧
    (new.exec sampleOptions (toLoggedOut ++ [.signal none 2])).map (·.log.drop 15) =
      some [.write (.logout "A7"), .cancel, .shutdown, .waitSignal, .cancel, .shutdown] := by
  decide

/-! ## LOGGED_OUT writes nothing -/

/-- From LOGGED_OUT a step stays there and writes nothing: the registry is empty, so a tagged
status raises; no read, greeting timer or opening step is pending. -/
theorem step_loggedOut {o : Options} {c c' : Client} {e : Event} (g : c.Good)
    (hlo : c.state = .loggedOut) (he : c.enabled e = true) (h : c.step o e = .ok c') :
    c'.state = .loggedOut ∧ c'.writes = c.writes := by
  rcases step_cases g he h with ⟨-, -, hm, hw, -⟩ | ⟨cb, rfl, ht, h⟩ | ⟨-, hs, -⟩ | ⟨-, -, q⟩
  · simp [hlo] at hw
  · obtain ⟨hl, -⟩ := callback_log ht h
    exact ⟨(callback_frame ht h).state ▸ hlo, by unfold writes; rw [hl]⟩
  · simp [hlo] at hs
  · rcases q.state with hs | ⟨⟨r, rfl⟩, -⟩
    · exact ⟨hs.trans hlo, q.writes⟩
    · simp only [enabled, Bool.and_eq_true, bne_iff_ne] at he
      have hs := g.openingState (by omega)
      simp [hlo] at hs

/-- Once the tagged OK of LOGOUT has made {lit}`command()` quit in LOGGED_OUT, no later event
writes a command. -/
theorem loggedOut_silent {o : Options} {c c' : Client} {es : List Event} (hr : Reachable o c)
    (hlo : c.state = .loggedOut) (hx : c.exec o es = some c') :
    c'.state = .loggedOut ∧ c'.writes = c.writes :=
  Reachable.exec_induction (fun d => d.state = .loggedOut ∧ d.writes = c.writes)
    (fun hr hq he hs =>
      let h := step_loggedOut hr.good hq.1 he hs
      ⟨h.1, h.2.trans hq.2⟩)
    hr ⟨hlo, rfl⟩ hx

/-! ## A second signal -/

/-- No step lowers the signal count. -/
theorem step_signaled {o : Options} {c c' : Client} {e : Event} (g : c.Good)
    (he : c.enabled e = true) (h : c.step o e = .ok c') : c.signaled ≤ c'.signaled := by
  rcases step_cases g he h with ⟨-, -, -, hw, h⟩ | ⟨cb, rfl, ht, h⟩ |
    ⟨-, -, -, ⟨-, rfl⟩ | ⟨-, h⟩⟩ | ⟨-, -, q⟩
  · exact (command_signaled (State.succ_mem_dispatched hw) h).ge
  · exact (callback_log ht h).2.2.1.ge
  · simp
  · exact (command_signaled (by simp) h).ge
  · exact q.signaled

/-- Once a signal has made the session quit, it never quits on a signal again: a later signal
delivered without error raises the fatal "second time" error. -/
theorem signal_again_fails {o : Options} {c c' : Client} {es : List Event} (hr : Reachable o c)
    (hs : c.signaled ≠ 0) (hx : c.exec o es = some c') (n : Int) :
    c'.step o (.signal none n) =
      .error (.msg ("Got a signal (" ++ toString n ++ ") the second time - immediate exit")) := by
  have hs' : c'.signaled ≠ 0 := Reachable.exec_induction (fun d => d.signaled ≠ 0)
    (fun hr hq he hs => by have := step_signaled hr.good he hs; omega) hr hs hx
  simp [step, onSignal, hs']

/-! ## What quitting guarantees -/

/-- Along every run: once LOGGED_OUT is reached the session stays there and writes no command,
and once a signal has made it quit, every later signal raises instead of quitting again. -/
theorem quit_guarantees {o : Options} {c c' : Client} {es : List Event} (hr : Reachable o c)
    (hx : c.exec o es = some c') :
    (c.state = .loggedOut → c'.state = .loggedOut ∧ c'.writes = c.writes) ∧
      (c.signaled ≠ 0 → ∀ n : Int, c'.step o (.signal none n) =
        .error (.msg ("Got a signal (" ++ toString n ++ ") the second time - immediate exit"))) :=
  ⟨fun hlo => loggedOut_silent hr hlo hx, fun hs => signal_again_fails hr hs hx⟩

/-- The session after {lit}`toLoggedOut`. -/
def loggedOutClient : Client := (new.exec sampleOptions toLoggedOut).getD new

theorem quit_guarantees_loggedOut :
    Reachable sampleOptions loggedOutClient ∧ loggedOutClient.state = .loggedOut ∧
      loggedOutClient.exec sampleOptions [.signal none 2] =
        some ((loggedOutClient.exec sampleOptions [.signal none 2]).getD new) ∧
      ((loggedOutClient.state = .loggedOut →
          ((loggedOutClient.exec sampleOptions [.signal none 2]).getD new).state = .loggedOut ∧
          ((loggedOutClient.exec sampleOptions [.signal none 2]).getD new).writes =
            loggedOutClient.writes) ∧
        (loggedOutClient.signaled ≠ 0 → ∀ n : Int,
          ((loggedOutClient.exec sampleOptions [.signal none 2]).getD new).step sampleOptions
              (.signal none n) =
            .error
              (.msg ("Got a signal (" ++ toString n ++ ") the second time - immediate exit")))) :=
  have h₀ : new.exec sampleOptions toLoggedOut = some loggedOutClient := by decide
  have hr : Reachable sampleOptions loggedOutClient := Reachable.exec ⟨[], .start⟩ h₀
  have hx : loggedOutClient.exec sampleOptions [.signal none 2] =
      some ((loggedOutClient.exec sampleOptions [.signal none 2]).getD new) := by decide
  ⟨hr, by decide, hx, quit_guarantees hr hx⟩

end Client
end Imapdl
