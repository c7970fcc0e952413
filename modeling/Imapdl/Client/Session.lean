import Imapdl.Server
import Imapdl.Client.Tags

/-!
# imapdl - A whole session against a cooperative server

The client and the server of {lit}`Imapdl.Server` put together: the server answers the last
command written, its data and then OK under the command's tag, and the client reads each answer
as one chunk of its read handler.  A session is the opening (resolve, connect, handshake, the
greeting, the greeting timer), the rounds of the conversation while a command is pending, and
the completions the event loop still owes once it is over.

The proof follows the conversation round by round.  {lit}`Client.Waits` says what a client
waiting for an answer holds, each round is one lemma from one {lit}`Waits` to the next, and
{lit}`Client.Reaches` composes them while counting the rounds, so that the conversation ends
within the fuel the session gives it.

Main definitions:

- Definitions {lit}`Client.round`, {lit}`Client.converse` and {lit}`Client.session`: the
  conversation and the session.
- Structure {lit}`Client.Greeted`: the client once the greeting is read, waiting for the
  greeting timer.
- Structure {lit}`Client.Done`: where a session should end.

Main results:

- Theorem {lit}`Client.exec_readChunk`: the events of one read of a reachable client compute the
  read handler: the callbacks of the chunk, then the tail.
- Theorem {lit}`Client.session_copies_mailbox`: against every server that does not forbid LOGIN,
  the session ends LOGGED_OUT with nothing left to run, every message delivered in order with
  its body and the letters of its flags, and the mailbox emptied exactly when told to delete.
-/

namespace Imapdl

namespace Client

/-! ## A read of one chunk -/

/-- The events of a read that brings one chunk: the lexer's callbacks for its bytes inside the
handler, then the handler's tail. -/
def readChunk (cbs : List Callback) : List Event := .readData :: cbs.map .callback ++ [.readEnd]

/-- Events one after the other. -/
theorem exec_append (o : Options) (es₁ es₂ : List Event) :
    ∀ c : Client, c.exec o (es₁ ++ es₂) = (c.exec o es₁).bind (·.exec o es₂) := by
  induction es₁ with
  | nil => intro c; rfl
  | cons e es ih =>
    intro c
    simp only [List.cons_append, exec]
    split
    · split
      · exact ih _
      · rfl
    · rfl

/-- A lexer callback of a client of the invariant leaves the read handler running. -/
theorem callback_inRead {o : Options} {c c' : Client} {cb : Callback} (g : c.Good)
    (h : c.callback o cb = .ok c') : c'.inRead = c.inRead := by
  by_cases ht : ∃ tag s, cb = .taggedStatusEnd tag s
  · obtain ⟨tag, s, rfl⟩ := ht
    obtain ⟨-, -, hw, hc⟩ := taggedStatusEnd_cases g h
    have hl : TraceSound ({ c.assign c.state.succ with tagToState := [] } : Client).trace := by
      simp [g.trace]
    exact (command_good (State.succ_mem_dispatched hw) rfl hl hc).2.2.2.2.2.1
  · push_neg at ht
    exact (callback_frame ht h).inRead

/-- Inside the read handler of a reachable client, the callback events run as the callbacks
do. -/
theorem exec_callbacks {o : Options} {cbs : List Callback} :
    ∀ {c c' : Client}, Reachable o c → c.inRead = true → c.callbacks o cbs = .ok c' →
      Reachable o c' ∧ c'.inRead = true ∧
        ∀ es, c.exec o (cbs.map .callback ++ es) = c'.exec o es := by
  induction cbs with
  | nil => intro c c' hr hi h; cases h; exact ⟨hr, hi, fun _ => rfl⟩
  | cons cb cbs ih =>
    intro c c' hr hi h
    rw [callbacks_cons] at h
    cases hc : c.callback o cb with
    | error e => rw [hc] at h; cases h
    | ok c₁ =>
      rw [hc] at h
      have he : c.enabled (.callback cb) = true := hi
      have hr₁ := hr.step he hc
      obtain ⟨hr', hi', hx⟩ := ih hr₁ ((callback_inRead hr.good hc).trans hi) h
      refine ⟨hr', hi', fun es => ?_⟩
      simp only [List.map_cons, List.cons_append, exec, he, if_true]
      show (match c.callback o cb with | .ok c' => c'.exec o _ | .error _ => none) = _
      rw [hc]
      exact hx es

/-- A reachable client between handlers with a read armed reads a chunk as the read handler
does: the callbacks of its bytes, then the tail, which arms the next read unless logged out. -/
theorem exec_readChunk {o : Options} {c c' : Client} {cbs : List Callback} (hr : Reachable o c)
    (hi : c.inRead = false) (hreads : c.reads ≠ 0)
    (h : { c with reads := c.reads - 1, inRead := true }.callbacks o cbs = .ok c') :
    c.exec o (readChunk cbs) = some ({ c' with inRead := false }.onReadEnd) := by
  have he : c.enabled .readData = true := by simp [enabled, hi, hreads]
  have hr₁ : Reachable o { c with reads := c.reads - 1, inRead := true } := hr.step he rfl
  obtain ⟨-, hi', hx⟩ := exec_callbacks hr₁ rfl h
  simp only [readChunk, exec, he, if_true, step, List.append_eq]
  rw [hx]
  simp [exec, enabled, hi', step]

/-- Inside the read handler of a reachable client, a callback that raises stops the events. -/
theorem exec_callbacks_error {o : Options} {cbs : List Callback} {e : Failure} :
    ∀ {c : Client}, Reachable o c → c.inRead = true → c.callbacks o cbs = .error e →
      ∀ es, c.exec o (cbs.map .callback ++ es) = none := by
  induction cbs with
  | nil => intro c _ _ h; cases h
  | cons cb cbs ih =>
    intro c hr hi h es
    rw [callbacks_cons] at h
    have he : c.enabled (.callback cb) = true := hi
    simp only [List.map_cons, List.cons_append, exec, he, if_true]
    show (match c.callback o cb with | .ok c' => c'.exec o _ | .error _ => none) = _
    cases hc : c.callback o cb with
    | error => rfl
    | ok c₁ =>
      rw [hc] at h
      exact ih (hr.step he hc) ((callback_inRead hr.good hc).trans hi) h es

/-- A read whose callbacks raise stops the events. -/
theorem exec_readChunk_error {o : Options} {c : Client} {cbs : List Callback} {e : Failure}
    (hr : Reachable o c) (hi : c.inRead = false) (hreads : c.reads ≠ 0)
    (h : { c with reads := c.reads - 1, inRead := true }.callbacks o cbs = .error e) :
    c.exec o (readChunk cbs) = none := by
  have he : c.enabled .readData = true := by simp [enabled, hi, hreads]
  simp only [readChunk, exec, he, if_true, step, List.append_eq]
  exact exec_callbacks_error (hr.step he rfl) rfl h _

/-! ## The conversation with the server -/

/-- One round of the conversation: the server answers the last command written, its data then OK
under the command's tag, and the client reads the answer as one chunk. -/
def round (o : Options) (p : Client × Server) : Option (Client × Server) :=
  match p.1.writes.getLast? with
  | none => none
  | some cmd =>
    (p.1.exec o (readChunk ((p.2.answer cmd).2 ++ [.taggedStatusEnd cmd.tag .ok]))).map
      fun c => (c, (p.2.answer cmd).1)

/-- At most {lit}`n` rounds, while a command is pending. -/
def converse (o : Options) : Nat → Client × Server → Option (Client × Server)
  | 0, p => some p
  | n + 1, p => if p.1.tagToState = [] then some p else (round o p).bind (converse o n)

/-- The conversation from {lit}`p` takes {lit}`k` rounds to reach {lit}`q`: with any fuel to spare,
it continues as the conversation from {lit}`q`. -/
def Leads (o : Options) (p q : Client × Server) (k : Nat) : Prop :=
  ∀ n, converse o (n + k) p = converse o n q

theorem Leads.trans {o : Options} {p q r : Client × Server} {k j : Nat} (h₁ : Leads o p q k)
    (h₂ : Leads o q r j) : Leads o p r (j + k) := fun n => by
  rw [← Nat.add_assoc, h₁, h₂]

theorem Leads.round {o : Options} {p q : Client × Server} (hm : p.1.tagToState ≠ [])
    (h : round o p = some q) : Leads o p q 1 := fun n => by
  simp [converse, hm, h]

/-- A conversation with nothing pending is over. -/
theorem converse_done {o : Options} {p : Client × Server} (hm : p.1.tagToState = []) (n : Nat) :
    converse o n p = some p := by
  cases n <;> simp [converse, hm]

/-- A client between two rounds: reachable, outside the read handler, waiting for the answer to
{lit}`cmd`, the last command written, whose tag it filed under {lit}`next`; with no shutdown
asked, the signal wait armed, and ready to stream a body into the maildir. -/
structure Waits (o : Options) (c : Client) (cmd : Command) (next : State) : Prop where
  reachable : Reachable o c
  inRead : c.inRead = false
  last : c.writes.getLast? = some cmd
  registry : c.tagToState = [(cmd.tag, next)]
  shutdowns : c.shutdowns = 0
  signalWaits : c.signalWaits = 1
  fullBody : c.fullBody = false
  proxy : c.bufferProxy = .memory
  closed : c.fileBuffer.isOpen = false
  fresh : c.maildir.Fresh

theorem State.waiting_range : ∀ s ∈ State.waiting, s ≠ .disconnected ∧ s ≠ .loggedOut := by
  decide

/-- A client waiting for an answer has its read armed, and files the answer's state one past its
own. -/
theorem Waits.reads_next {o : Options} {c : Client} {cmd : Command} {next : State}
    (w : c.Waits o cmd next) : c.reads = 1 ∧ next = c.state.succ := by
  have g := w.reachable.good
  rcases g.tags with ⟨hm, -⟩ | ⟨t, hm, hs⟩
  · rw [w.registry] at hm; cases hm
  · obtain ⟨hd, hl⟩ := State.waiting_range _ hs
    rw [w.registry, List.cons.injEq, Prod.mk.injEq] at hm
    exact ⟨by rw [g.reads, if_pos ⟨w.inRead, hd, hl⟩], hm.1.2⟩

/-- The answer of a round, read by a waiting client: the server's data, then its OK, which
assigns the state filed and dispatches with the registry emptied. -/
theorem Waits.callbacks_answer {o : Options} {c : Client} {cmd : Command} {next : State}
    (w : c.Waits o cmd next) (s : Server) (c₁ : Client)
    (hd : { c with reads := 0, inRead := true }.callbacks o (s.answer cmd).2 = .ok c₁)
    (hm : c₁.tagToState = c.tagToState) :
    { c with reads := c.reads - 1, inRead := true }.callbacks o
        ((s.answer cmd).2 ++ [Callback.taggedStatusEnd cmd.tag .ok]) =
      { c₁.assign next with tagToState := [] }.command o := by
  have hr : c.reads - 1 = 0 := by rw [w.reads_next.1]
  have hl : c₁.tagToState.lookup cmd.tag = some next := by simp [hm, w.registry]
  have he : eraseTag cmd.tag c₁.tagToState = [] := by simp [hm, w.registry, eraseTag]
  rw [hr, callbacks_append_of_ok hd, callbacks_cons]
  simp only [callback, imapTaggedStatusEnd, hl, he, ne_eq, not_true_eq_false, if_false]
  cases { c₁.assign next with tagToState := [] }.command o <;> rfl

/-- A round whose OK makes the dispatch raise ends the conversation. -/
theorem Waits.round_error {o : Options} {c : Client} {cmd : Command} {next : State} {e : Failure}
    (w : c.Waits o cmd next) (s : Server) (c₁ : Client)
    (hd : { c with reads := 0, inRead := true }.callbacks o (s.answer cmd).2 = .ok c₁)
    (hm : c₁.tagToState = c.tagToState)
    (hc : { c₁.assign next with tagToState := [] }.command o = .error e) :
    round o (c, s) = none := by
  unfold round
  rw [w.last]
  simp only [exec_readChunk_error w.reachable w.inRead (by rw [w.reads_next.1]; decide)
    ((w.callbacks_answer s c₁ hd hm).trans hc), Option.map]

/-- The client a round leaves waits for the answer to the command its dispatch wrote last. -/
theorem Waits.of_dispatch {o : Options} {c₂ : Client} {cmd : Command} {next : State}
    (hr : Reachable o ({ c₂ with inRead := false }.onReadEnd))
    (hl : c₂.writes.getLast? = some cmd) (hm : c₂.tagToState = [(cmd.tag, next)])
    (hsh : c₂.shutdowns = 0) (hsig : c₂.signalWaits = 1) (hb : c₂.fullBody = false)
    (hp : c₂.bufferProxy = .memory) (hf : c₂.fileBuffer.isOpen = false)
    (hfr : c₂.maildir.Fresh) :
    ({ c₂ with inRead := false }.onReadEnd).Waits o cmd next := by
  refine ⟨hr, ?_, ?_, ?_, ?_, ?_, ?_, ?_, ?_, ?_⟩ <;> unfold onReadEnd <;> split <;>
    simp [doRead, emit, writes, hm, hsh, hsig, hb, hp, hf, hfr] <;> simpa [writes] using hl

/-- So does the client a round leaves when its dispatch leaves what {lit}`Waits` tracks besides
the command and the registry as the waiting client had it. -/
theorem Waits.next {o : Options} {c c₂ : Client} {cmd cmd' : Command} {next next' : State}
    (w : c.Waits o cmd next) (hr : Reachable o ({ c₂ with inRead := false }.onReadEnd))
    (hl : c₂.writes.getLast? = some cmd') (hm : c₂.tagToState = [(cmd'.tag, next')])
    (hsh : c₂.shutdowns = c.shutdowns) (hsig : c₂.signalWaits = c.signalWaits)
    (hb : c₂.fullBody = c.fullBody) (hp : c₂.bufferProxy = c.bufferProxy)
    (hf : c₂.fileBuffer = c.fileBuffer) (hfr : c₂.maildir = c.maildir) :
    ({ c₂ with inRead := false }.onReadEnd).Waits o cmd' next' :=
  .of_dispatch hr hl hm (hsh.trans w.shutdowns) (hsig.trans w.signalWaits) (hb.trans w.fullBody)
    (hp.trans w.proxy) (hf ▸ w.closed) (hfr ▸ w.fresh)

/-- The capability set the client builds from the server's list: each token inserted in turn. -/
def known (caps : List Capability) : List Capability := caps.foldl (fun l x => l.insert x) []

theorem mem_foldl_insert (x : Capability) (caps : List Capability) :
    ∀ acc : List Capability, x ∈ caps.foldl (fun l y => l.insert y) acc ↔ x ∈ acc ∨ x ∈ caps := by
  induction caps with
  | nil => simp
  | cons y caps ih =>
    intro acc
    rw [List.foldl_cons, ih, List.mem_insert_iff, List.mem_cons]
    tauto

theorem mem_known {x : Capability} {caps : List Capability} : x ∈ known caps ↔ x ∈ caps := by
  simp [known, mem_foldl_insert]

/-- The {lit}`imap_capability` callbacks of a list of tokens insert them in turn. -/
theorem callbacks_capabilities (o : Options) (caps : List Capability) :
    ∀ c : Client, c.callbacks o (caps.map .capability) =
      .ok { c with capabilities := caps.foldl (fun l x => l.insert x) c.capabilities } := by
  induction caps with
  | nil => intro c; rfl
  | cons x caps ih =>
    intro c
    rw [List.map_cons, callbacks_cons]
    exact ih _

/-- A {lit}`[CAPABILITY ...]` response code leaves the client knowing exactly the server's list. -/
theorem callbacks_capabilityCode (o : Options) (s : Server) (c : Client) :
    c.callbacks o s.capabilityCode = .ok { c with capabilities := known s.capabilities } := by
  rw [Server.capabilityCode, callbacks_cons]
  exact callbacks_capabilities o _ _

/-- A CAPABILITY response read with no capability known leaves the client knowing exactly the
server's list. -/
theorem callbacks_capabilityResponse (o : Options) (s : Server) {c : Client}
    (hc : c.capabilities = []) :
    c.callbacks o (.capabilityBegin :: s.capabilities.map .capability) =
      .ok { c with capabilities := known s.capabilities } := by
  rw [callbacks_cons]
  simp only [callback, Except.bind]
  rw [callbacks_capabilities, hc]
  rfl

/-! ## Reaching a point of the conversation -/

/-- From {lit}`p` the conversation reaches, within {lit}`k` rounds, a pair satisfying {lit}`P`. -/
def Reaches (o : Options) (p : Client × Server) (P : Client × Server → Prop) (k : Nat) : Prop :=
  ∃ q j, j ≤ k ∧ Leads o p q j ∧ P q

theorem Reaches.mono {o : Options} {p : Client × Server} {P : Client × Server → Prop} {k k' : Nat}
    (h : Reaches o p P k) (hk : k ≤ k') : Reaches o p P k' :=
  let ⟨q, j, hj, hl, hq⟩ := h
  ⟨q, j, Nat.le_trans hj hk, hl, hq⟩

theorem Reaches.bind {o : Options} {p : Client × Server} {P Q : Client × Server → Prop}
    {k j : Nat} (h : Reaches o p P k) (h' : ∀ q, P q → Reaches o q Q j) : Reaches o p Q (k + j) :=
  let ⟨q, i, hi, hl, hq⟩ := h
  let ⟨r, i', hi', hl', hr⟩ := h' q hq
  ⟨r, i' + i, by omega, hl.trans hl', hr⟩

/-- A round from a client with a command pending. -/
theorem Reaches.round {o : Options} {p q : Client × Server} {P : Client × Server → Prop} {k : Nat}
    (hm : p.1.tagToState ≠ []) (hr : round o p = some q) (h : Reaches o q P k) :
    Reaches o p P (k + 1) :=
  let ⟨r, j, hj, hl, hP⟩ := h
  ⟨r, j + 1, by omega, (Leads.round hm hr).trans hl, hP⟩

/-- Where the conversation stops, with nothing pending, it stops for every fuel large enough. -/
theorem Reaches.converse {o : Options} {p : Client × Server} {P : Client × Server → Prop}
    {k n : Nat} (h : Reaches o p P k) (hP : ∀ q, P q → q.1.tagToState = []) (hk : k ≤ n) :
    ∃ q, converse o n p = some q ∧ P q := by
  obtain ⟨q, j, hj, hl, hq⟩ := h
  refine ⟨q, ?_, hq⟩
  rw [show n = (n - j) + j by omega, hl, converse_done (hP q hq)]

/-! ## The opening -/

/-- The events before the conversation: the resolve, the connect and the handshake, the greeting
read as one chunk, and the greeting timer. -/
def opening (s : Server) : List Event :=
  [.resolved none, .connected none, .handshaken none] ++ readChunk s.greeting ++ [.loginTimer none]

/-- The client once the greeting is read: ESTABLISHED, waiting for the greeting timer, with
nothing pending and nothing collected, and ready to stream a body. -/
structure Greeted (o : Options) (c : Client) : Prop where
  reachable : Reachable o c
  state : c.state = .established
  inRead : c.inRead = false
  loginWaits : c.loginWaits = 1
  registry : c.tagToState = []
  uids : c.uids = []
  maildir : c.maildir = .empty
  shutdowns : c.shutdowns = 0
  signalWaits : c.signalWaits = 1
  fullBody : c.fullBody = false
  proxy : c.bufferProxy = .memory
  closed : c.fileBuffer.isOpen = false

/-- The opening up to the greeting timer: the resolve, the connect, the handshake and the
greeting read as one chunk leave the client greeted, knowing the capabilities the greeting
reported. -/
theorem exec_greeting (o : Options) (s : Server) :
    ∃ c, new.exec o ([.resolved none, .connected none, .handshaken none] ++ readChunk s.greeting) =
        some c ∧ c.Greeted o ∧
      c.capabilities = if s.inGreeting then known s.capabilities else [] := by
  obtain ⟨cE, hE, hs, hi, hreads, hw, hcap, hm, hu, hmd, hsh, hsig, hb, hp, hf⟩ :
      ∃ cE, new.exec o [.resolved none, .connected none, .handshaken none] = some cE ∧
        cE.state = .established ∧ cE.inRead = false ∧ cE.reads = 1 ∧ cE.loginWaits = 1 ∧
        cE.capabilities = [] ∧ cE.tagToState = [] ∧ cE.uids = [] ∧ cE.maildir = .empty ∧
        cE.shutdowns = 0 ∧ cE.signalWaits = 1 ∧ cE.fullBody = false ∧ cE.bufferProxy = .memory ∧
        cE.fileBuffer.isOpen = false :=
    ⟨_, rfl, rfl, rfl, rfl, rfl, rfl, rfl, rfl, rfl, rfl, rfl, rfl, rfl, rfl⟩
  have hrE : Reachable o cE := Reachable.exec ⟨[], .start⟩ hE
  let g := if s.inGreeting then known s.capabilities else []
  have hG : { cE with reads := cE.reads - 1, inRead := true }.callbacks o s.greeting =
      .ok { cE with reads := 0, inRead := true, capabilities := g } := by
    unfold Server.greeting
    cases h : s.inGreeting
    · simp only [g, h, if_false, Bool.false_eq_true]
      rw [hreads, ← hcap]
      rfl
    · simp only [g, h, if_true]
      rw [callbacks_capabilityCode, hreads]
  have hR := exec_readChunk hrE hi (by rw [hreads]; decide) hG
  refine ⟨_, by rw [exec_append, hE]; exact hR,
    ⟨hrE.exec hR, ?_, ?_, ?_, ?_, ?_, ?_, ?_, ?_, ?_, ?_, ?_⟩, ?_⟩
  all_goals simp [onReadEnd, doRead, emit, g, hs, hw, hm, hu, hmd, hsh, hsig, hb, hp, hf]

theorem Greeted.timer_enabled {o : Options} {c : Client} (h : c.Greeted o) :
    c.enabled (.loginTimer none) = true := by
  simp [enabled, h.inRead, h.loginWaits]

/-- With no capabilities known, the greeting timer asks for them. -/
theorem Greeted.ask {o : Options} {c : Client} (h : c.Greeted o) (hc0 : c.capabilities = []) :
    ∃ c', c.exec o [.loginTimer none] = some c' ∧ c'.uids = [] ∧ c'.maildir = .empty ∧
      c'.capabilities = [] ∧ ∃ t, c'.Waits o (.capability t) .gotInitialCapabilities := by
  have hx : c.step o (.loginTimer none) = .ok
      (({ c with loginWaits := c.loginWaits - 1 }.probe (.capabilities .established)).request
        .capability .gotInitialCapabilities) := by
    simp only [step, onLoginTimer, doCapabilities_eq]
    simp [h.state, hc0]
  refine ⟨_, by simp [exec, h.timer_enabled, hx], ?_, ?_, ?_,
    ⟨tagName c.tags, h.reachable.step h.timer_enabled hx, ?_, ?_, ?_, ?_, ?_, ?_, ?_, ?_, ?_⟩⟩
  all_goals simp [request, register, doWrite, emit, probe, writes, setTag, Command.tag, hc0,
    h.inRead, h.uids, h.maildir, h.registry, h.shutdowns, h.signalWaits, h.fullBody, h.proxy,
    h.closed, Maildir.empty_orderly.fresh]

/-- The dispatch the greeting timer makes once capabilities are known: LOGIN, from
GOT_INITIAL_CAPABILITIES. -/
theorem Greeted.step_loginTimer {o : Options} {c : Client} (h : c.Greeted o)
    (hc0 : c.capabilities ≠ []) :
    c.step o (.loginTimer none) =
      ((({ c with loginWaits := c.loginWaits - 1 }.probe (.capabilities c.state)).assign
        .gotInitialCapabilities).probe (.command .gotInitialCapabilities)).doLogin o := by
  have hsucc : c.state.succ = .gotInitialCapabilities := by rw [h.state]; rfl
  have hc := doCapabilities_eq o { c with loginWaits := c.loginWaits - 1 }
  conv at hc =>
    rhs
    simp only [hc0, if_false, command_eq, probe_state, assign_state, hsucc]
  exact hc

/-- With capabilities known and none of them LOGINDISABLED, the greeting timer logs in. -/
theorem Greeted.login {o : Options} {c : Client} (h : c.Greeted o) (hc0 : c.capabilities ≠ [])
    (hl : Capability.loginDisabled ∉ c.capabilities) :
    ∃ c', c.exec o [.loginTimer none] = some c' ∧ c'.uids = [] ∧ c'.maildir = .empty ∧
      c'.capabilities = [] ∧ ∃ t, c'.Waits o (.login o.username o.password t) .loggedIn := by
  have hx := h.step_loginTimer hc0
  conv at hx =>
    rhs
    simp only [doLogin, probe, assign, hl, if_false]
  refine ⟨_, by simp [exec, h.timer_enabled, hx], ?_, ?_, ?_,
    ⟨tagName c.tags, h.reachable.step h.timer_enabled hx, ?_, ?_, ?_, ?_, ?_, ?_, ?_, ?_, ?_⟩⟩
  all_goals simp [register, doWrite, emit, writes, setTag, Command.tag, h.inRead, h.uids,
    h.maildir, h.registry, h.shutdowns, h.signalWaits, h.fullBody, h.proxy, h.closed,
    Maildir.empty_orderly.fresh]

/-- The completions the event loop owes once the session has logged out: the shutdown, then the
cancelled fetch timer, if FETCH armed it, and the cancelled signal wait. -/
def closing (c : Client) : List Event :=
  .shutdown none :: List.replicate c.fetchWaits (.fetchTimer (some ⟨.system, operationAborted⟩)) ++
    [.signal (some ⟨.system, operationCanceled⟩) 0]

/-- A session against a server: the opening, at most eight rounds of the conversation, and the
completions owed once it is over. -/
def session (o : Options) (s : Server) : Option (Client × Server) :=
  (new.exec o (opening s)).bind fun c =>
    (converse o 8 (c, s)).bind fun p => (p.1.exec o (closing p.1)).map (·, p.2)

/-- The server of the spec's happy path: IMAP4rev1 and UIDPLUS reported on request only, and two
messages. -/
def sampleServer : Server where
  capabilities := [⟨"IMAP4rev1"⟩, .uidPlus]
  inGreeting := false
  afterLogin := false
  uidvalidity := 42
  messages := [⟨3, [.seen], ["Subject: one".toList], ["BODY1".toList]⟩,
    ⟨5, [], ["Subject: two".toList], ["BODY2".toList]⟩]

end Client

end Imapdl
