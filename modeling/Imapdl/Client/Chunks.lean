import Imapdl.Client.Session

/-!
# imapdl - A read may end anywhere in the server's answer

TCP hands the client the server's bytes in reads of any size.  The lexer, library code outside
the repository, is taken to keep what it has not yet completed from one read to the next: the
callbacks of the bytes of two reads are those of their concatenation, split at a callback, or,
inside the bytes of a literal, with the bytes written in two parts.  The client reads its log of
requests to the transport nowhere, and its handlers do not depend on where a read ends, so in
every reachable state two reads compute what one read of the same callbacks computes, with one
more read request logged at the split.  The one exception is the end of the session: once a
callback of the first read reaches LOGGED_OUT, the handler arms no next read, and the rest of
the answer is never read.

Main definitions:

- Definition {lit}`Client.prefixLog`: the client with requests logged before its log.
- Definition {lit}`Client.insertRead`: the client with one more read request in its log.

Main results:

- Theorem {lit}`Client.callbacks_prefixLog`: the callbacks never read the log.
- Theorem {lit}`Client.exec_reads_split`: two reads compute what one read of their callbacks
  computes, up to the read request logged between them, unless the first reaches LOGGED_OUT.
- Theorem {lit}`Client.exec_reads_split_literal`: the same for a split inside the bytes of a
  literal.
-/

namespace Imapdl

namespace Client

/-! ## The client never reads its log -/

/-- The client with {lit}`M` logged before everything in its log. -/
def prefixLog (M : List Effect) (c : Client) : Client := { c with log := M ++ c.log }

/-- {lit}`command()` in a state the switch has no action for only records its entry. -/
theorem command_idle (o : Options) {c : Client} (hs : c.state ∉ State.dispatched) :
    c.command o = .ok (c.probe (.command c.state)) := by
  rw [command_eq]
  generalize c.state = s at hs ⊢
  obtain ⟨v⟩ := s
  match v with
  | 0 | 1 | 2 | 7 | 11 | 13 | 14 | _ + 15 => rfl
  | 3 | 4 | 5 | 6 | 8 | 9 | 10 | 12 => exact (hs (by simp [State.dispatched])).elim

/-- {lit}`command()` only appends to the log. -/
theorem command_prefixLog (o : Options) (M : List Effect) (c : Client) :
    (c.prefixLog M).command o = (c.command o).map (prefixLog M) := by
  by_cases hs : c.state ∈ State.dispatched
  · simp only [State.dispatched, List.mem_cons, List.mem_singleton, List.not_mem_nil,
      or_false] at hs
    rcases hs with hs | hs | hs | hs | hs | hs | hs | hs <;>
      simp only [command_eq, prefixLog, hs]
    · by_cases hl : Capability.loginDisabled ∈ c.capabilities <;>
        simp [doLogin, hl, hs, Except.map, prefixLog]
    · have hsucc : c.state.succ = .gotCapabilities := by rw [hs]; rfl
      by_cases hc : c.capabilities = [] <;>
        simp [doCapabilities_eq, hc, hs, hsucc, command_eq, Except.map, prefixLog]
    · simp [hs, Except.map, prefixLog]
    · by_cases he : c.exists_ = 0 <;> simp [doFetchOrLogout, he, hs, Except.map, prefixLog]
    · cases hd : o.del <;> simp [doStoreOrLogout, hd, hs, Except.map, prefixLog]
    all_goals simp [hs, hasUidplus, Except.map, prefixLog]
  · rw [command_idle o (show (c.prefixLog M).state ∉ State.dispatched from hs), command_idle o hs]
    rfl

/-- A callback only appends to the log. -/
theorem callback_prefixLog (o : Options) (M : List Effect) (c : Client) (cb : Callback) :
    (c.prefixLog M).callback o cb = (c.callback o cb).map (prefixLog M) := by
  cases cb with
  | taggedStatusEnd tag s =>
    simp only [callback, imapTaggedStatusEnd]
    split
    · rfl
    · show (match c.tagToState.lookup tag with
        | none => _
        | some next => _) = _
      cases c.tagToState.lookup tag with
      | none => rfl
      | some next =>
        exact command_prefixLog o M { c.assign next with tagToState := eraseTag tag c.tagToState }
  | bodySectionInner =>
    simp only [callback, imapBodySectionInner, prefixLog]
    split_ifs <;> rfl
  | bodySectionEnd =>
    simp only [callback, imapBodySectionEnd, prefixLog]
    split_ifs
    · cases c.maildir.moveToNew <;> rfl
    · cases c.maildir.moveToCur c.flags <;> rfl
    all_goals rfl
  | uid n =>
    simp only [callback, imapUid, prefixLog]
    split_ifs <;> rfl
  | write bs =>
    simp only [callback, push, prefixLog]
    cases c.bufferProxy <;> rfl
  | _ => rfl

/-- The callbacks of a chunk only append to the log: run after other requests, they make the
same ones and leave the same client. -/
theorem callbacks_prefixLog (o : Options) (M : List Effect) :
    ∀ (c : Client) (cbs : List Callback),
      (c.prefixLog M).callbacks o cbs = (c.callbacks o cbs).map (prefixLog M)
  | _, [] => rfl
  | c, cb :: cbs => by
    rw [callbacks_cons, callbacks_cons, callback_prefixLog]
    cases c.callback o cb with
    | error => rfl
    | ok c' => exact callbacks_prefixLog o M c' cbs

/-! ## Two reads for one -/

/-- The client with a read request logged at position {lit}`n` of its log. -/
def insertRead (n : Nat) (c : Client) : Client :=
  { c with log := c.log.take n ++ .read :: c.log.drop n }

/-- The events of one read run the handler {lit}`onRead` over the callbacks of its chunk, marked
as running while they do, or stop if a callback raises. -/
theorem exec_readChunk_eq {o : Options} {c : Client} {cbs : List Callback} (hr : Reachable o c)
    (hi : c.inRead = false) (hreads : c.reads ≠ 0) :
    c.exec o (readChunk cbs) =
      ({ c with reads := c.reads - 1, inRead := true }.onRead o (.ok cbs)).toOption.map
        fun c' : Client => { c' with inRead := false } := by
  cases h : { c with reads := c.reads - 1, inRead := true }.callbacks o cbs with
  | error e => simp [onRead, h, exec_readChunk_error hr hi hreads h, Except.map, Except.toOption]
  | ok c' =>
    simp [onRead, h, exec_readChunk hr hi hreads h, Except.map, Except.toOption, onReadEnd_eq]

/-- Two reads, the first not reaching LOGGED_OUT, compute what one read computes, with the read
request of the first read's tail logged between them. -/
theorem exec_readChunk_append {o : Options} {c c₂ : Client} {xs ys : List Callback}
    (hr : Reachable o c) (hi : c.inRead = false) (hreads : c.reads ≠ 0)
    (hx : { c with reads := c.reads - 1, inRead := true }.callbacks o xs = .ok c₂)
    (hs : c₂.state ≠ .loggedOut) :
    c.exec o (readChunk xs ++ readChunk ys) =
      (c.exec o (readChunk (xs ++ ys))).map (insertRead c₂.log.length) := by
  have he : c.enabled .readData = true := by simp [enabled, hi, hreads]
  have hin : c₂.inRead = true := (exec_callbacks (hr.step he rfl) rfl hx).2.1
  have h₁ := exec_readChunk hr hi hreads hx
  rw [onReadEnd, if_pos hs] at h₁
  -- the second read starts from the client after the first read's callbacks, with the read
  -- request of the first tail logged
  let d : Client := { c₂ with inRead := false }.doRead
  let base : Client := { c₂ with log := [] }
  have hd : { d with reads := d.reads - 1, inRead := true } =
      base.prefixLog (c₂.log ++ [.read]) := by
    simp [d, base, prefixLog, hin]
  have hxy := callbacks_append_of_ok hx ys
  rw [show c₂ = base.prefixLog c₂.log by simp [base, prefixLog], callbacks_prefixLog] at hxy
  rw [exec_append, h₁, Option.some_bind, exec_readChunk_eq (hr.exec h₁) rfl (by simp [d]), hd,
    onRead, callbacks_prefixLog, exec_readChunk_eq hr hi hreads, onRead, hxy]
  cases base.callbacks o ys with
  | error => rfl
  | ok b =>
    simp only [Except.map, Except.toOption, Option.map_some', Option.some.injEq, onReadEnd,
      prefixLog]
    split_ifs <;> simp [insertRead]

/-- A first read that reaches LOGGED_OUT arms no next read. -/
theorem exec_readChunk_loggedOut {o : Options} {c c₂ : Client} {xs : List Callback}
    (hr : Reachable o c) (hi : c.inRead = false) (hreads : c.reads ≠ 0)
    (hx : { c with reads := c.reads - 1, inRead := true }.callbacks o xs = .ok c₂)
    (hs : c₂.state = .loggedOut) (ys : List Callback) :
    c.exec o (readChunk xs ++ readChunk ys) = none := by
  have h₁ := exec_readChunk hr hi hreads hx
  rw [onReadEnd, if_neg (not_not.2 hs)] at h₁
  have hz : c₂.reads = 0 := by
    have h := (hr.exec h₁).good.reads
    simp only [hs, ne_eq, not_true_eq_false, and_false, if_false] at h
    exact h
  rw [exec_append, h₁, Option.some_bind]
  simp [readChunk, exec, enabled, hz]

/-- Two reads of a reachable client compute what one read of their callbacks computes, up to
the read request logged between them, unless the first read reaches LOGGED_OUT: then the
handler arms no next read and the rest is never read. -/
theorem exec_reads_split {o : Options} {c c₂ : Client} {xs ys : List Callback}
    (hr : Reachable o c) (hi : c.inRead = false) (hreads : c.reads ≠ 0)
    (hx : { c with reads := c.reads - 1, inRead := true }.callbacks o xs = .ok c₂) :
    c.exec o (readChunk xs ++ readChunk ys) =
      if c₂.state = .loggedOut then none
      else (c.exec o (readChunk (xs ++ ys))).map (insertRead c₂.log.length) := by
  split_ifs with hs
  · exact exec_readChunk_loggedOut hr hi hreads hx hs ys
  · exact exec_readChunk_append hr hi hreads hx hs

theorem exec_reads_split_fetching :
    Reachable sampleOptions fetchingClient ∧ fetchingClient.inRead = false ∧
      fetchingClient.reads ≠ 0 ∧
      { fetchingClient with reads := fetchingClient.reads - 1, inRead := true }.callbacks
        sampleOptions [.dataExists 2] =
        .ok { fetchingClient with reads := fetchingClient.reads - 1, inRead := true,
                                  exists_ := 2 } ∧
      fetchingClient.exec sampleOptions
          (readChunk [.dataExists 2] ++ readChunk [.taggedStatusEnd "A4" .ok]) =
        if ({ fetchingClient with reads := fetchingClient.reads - 1, inRead := true,
                                  exists_ := 2 } : Client).state = .loggedOut then none
        else (fetchingClient.exec sampleOptions
            (readChunk ([.dataExists 2] ++ [.taggedStatusEnd "A4" .ok]))).map
          (insertRead fetchingClient.log.length) :=
  have hi : fetchingClient.inRead = false := by decide
  have hreads : fetchingClient.reads ≠ 0 := by decide
  ⟨fetchingClient_reachable, hi, hreads, rfl,
    exec_reads_split fetchingClient_reachable hi hreads rfl⟩

/-! ## A read ending inside a literal -/

/-- The bytes of a literal written in two parts go where they go written at once. -/
theorem callbacks_write_append (o : Options) (c : Client) (a b : List Char) :
    c.callbacks o [.write (a ++ b)] = c.callbacks o [.write a, .write b] := by
  show Except.ok (c.push (a ++ b)) = .ok ((c.push a).push b)
  unfold push
  cases c.bufferProxy <;> simp [Maildir.append_append]

/-- A read whose callbacks agree computes the same. -/
theorem exec_readChunk_congr {o : Options} {c : Client} {xs ys : List Callback}
    (hr : Reachable o c) (hi : c.inRead = false) (hreads : c.reads ≠ 0)
    (h : { c with reads := c.reads - 1, inRead := true }.callbacks o xs =
      { c with reads := c.reads - 1, inRead := true }.callbacks o ys) :
    c.exec o (readChunk xs) = c.exec o (readChunk ys) := by
  rw [exec_readChunk_eq hr hi hreads, exec_readChunk_eq hr hi hreads, onRead, onRead, h]

/-- Two reads split inside the bytes of a literal compute what one read computes, up to the
read request logged between them, unless the first read reaches LOGGED_OUT. -/
theorem exec_reads_split_literal {o : Options} {c c₂ : Client} {xs ys : List Callback}
    {a b : List Char} (hr : Reachable o c) (hi : c.inRead = false) (hreads : c.reads ≠ 0)
    (hx : { c with reads := c.reads - 1, inRead := true }.callbacks o (xs ++ [Callback.write a]) =
      .ok c₂) :
    c.exec o (readChunk (xs ++ [Callback.write a]) ++ readChunk (Callback.write b :: ys)) =
      if c₂.state = .loggedOut then none
      else (c.exec o (readChunk (xs ++ Callback.write (a ++ b) :: ys))).map
        (insertRead c₂.log.length) := by
  have hw : ∀ c' : Client, c'.callbacks o (Callback.write a :: Callback.write b :: ys) =
      c'.callbacks o (Callback.write (a ++ b) :: ys) := fun c' => by
    have h₁ := callbacks_append o c' [Callback.write a, Callback.write b] ys
    have h₂ := callbacks_append o c' [Callback.write (a ++ b)] ys
    simp only [List.cons_append, List.nil_append] at h₁ h₂
    rw [h₁, h₂, callbacks_write_append]
  have h : { c with reads := c.reads - 1, inRead := true }.callbacks o
      (xs ++ [Callback.write a] ++ Callback.write b :: ys) =
      { c with reads := c.reads - 1, inRead := true }.callbacks o
        (xs ++ Callback.write (a ++ b) :: ys) := by
    rw [List.append_assoc, callbacks_append, callbacks_append, List.singleton_append]
    congr 1
    funext c'
    exact hw c'
  rw [exec_reads_split hr hi hreads hx, exec_readChunk_congr hr hi hreads h]

theorem exec_reads_split_literal_fetching :
    Reachable sampleOptions fetchingClient ∧ fetchingClient.inRead = false ∧
      fetchingClient.reads ≠ 0 ∧
      { fetchingClient with reads := fetchingClient.reads - 1, inRead := true }.callbacks
        sampleOptions ([] ++ [Callback.write "BO".toList]) =
        .ok ({ fetchingClient with reads := fetchingClient.reads - 1, inRead := true }.push
          "BO".toList) ∧
      fetchingClient.exec sampleOptions
          (readChunk ([] ++ [Callback.write "BO".toList]) ++ readChunk [Callback.write "DY".toList]) =
        if ({ fetchingClient with reads := fetchingClient.reads - 1, inRead := true }.push
            "BO".toList).state = .loggedOut then none
        else (fetchingClient.exec sampleOptions
            (readChunk ([] ++ [Callback.write ("BO".toList ++ "DY".toList)]))).map
          (insertRead ({ fetchingClient with reads := fetchingClient.reads - 1, inRead := true }.push
            "BO".toList).log.length) :=
  have hi : fetchingClient.inRead = false := by decide
  have hreads : fetchingClient.reads ≠ 0 := by decide
  ⟨fetchingClient_reachable, hi, hreads, rfl,
    exec_reads_split_literal fetchingClient_reachable hi hreads rfl⟩

end Client

end Imapdl
