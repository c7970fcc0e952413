import Imapdl.Maildir

/-!
# imapdl - The copy client

`IMAP::Copy::Client` drives one session on a single-threaded event loop: each completion
handler, timer and signal runs to its end before the next, and the lexer calls the ingestor
callbacks from inside the read handler.  This module translates the client's members, its
dispatch `command()` and every handler, and puts them together as one step function of the
event loop over an explicit client record.

The record holds the client's fields, the completions the event loop still owes it (one count
per kind of asynchronous operation), a log of what the client asked of the transport and the
timers, and a ghost trace of its control flow: the state {lit}`command()` is entered in, the
state {lit}`do_capabilities` runs in, and each assignment to {lit}`state_`.

Main definitions:

- Definitions {lit}`Client.command` and {lit}`Client.doCapabilities`: the mutual recursion of
  the source, made structural on the enumerators left above {lit}`state_`.
- Definition {lit}`Client.callback`: the ingestor surface the lexer calls.
- Definition {lit}`Client.step`: one step of the event loop; a read completion with data is a
  {lit}`readData` step, one {lit}`callback` step per lexer callback, and a {lit}`readEnd` step.
- Inductive {lit}`Client.Run`: the runs from the constructor, each step recorded with the
  state it was taken in.

Current gaps:

- Logging, the fetch statistics and the option fields only the logs read are left out.
-/

namespace Imapdl

/-- What the client asks of the transport, the timers and the signal set. -/
inductive Effect
  | write (cmd : Command)
  | resolve
  | connect
  | handshake
  | read
  | armLoginTimer (ms : Nat)
  | armFetchTimer
  | cancelFetchTimer
  | waitSignal
  | cancel
  | shutdown
  | close
  | cancelSignals
deriving DecidableEq, Repr

/-- A ghost record of the client's control flow: `command()` entered in a state,
`do_capabilities` run in a state, an assignment to `state_`. -/
inductive Probe
  | command (s : State)
  | capabilities (s : State)
  | assign (old new : State)
deriving DecidableEq, Repr

/-- `uids_.copy(set)`: the UIDs pushed, one range each. -/
def copyUids (uids : List UInt32) : List (UInt32 × UInt32) := uids.map fun u => (u, u)

/-- `tag_to_state_[tag] = s`: a `std::map` insertion that overwrites an entry of that tag. -/
def setTag (tag : String) (s : State) (m : List (String × State)) : List (String × State) :=
  (tag, s) :: m.filter (·.1 != tag)

/-- `tag_to_state_.erase(tag)`. -/
def eraseTag (tag : String) (m : List (String × State)) : List (String × State) :=
  m.filter (·.1 != tag)

/-- The fields of `IMAP::Copy::Client`, the completions the event loop owes it, whether its
read handler is running, its log and its ghost trace. -/
structure Client where
  state : State
  tagToState : List (String × State)
  capabilities : List Capability
  exists_ : UInt32
  recent : UInt32
  uidvalidity : UInt32
  uids : List UInt32
  flags : List Char
  fullBody : Bool
  fileBuffer : FileBuffer
  bufferProxy : Target
  buffer : List Char
  fetchedMessages : Nat
  signaled : Nat
  tags : Nat
  maildir : Maildir
  resolving : Nat
  connecting : Nat
  handshaking : Nat
  reads : Nat
  loginWaits : Nat
  fetchWaits : Nat
  signalWaits : Nat
  shutdowns : Nat
  inRead : Bool
  log : List Effect
  trace : List Probe
deriving DecidableEq, Repr

namespace Client

/-- The members as the constructor initialises them, `buffer_proxy_` at `buffer_`. -/
def init : Client where
  state := .disconnected
  tagToState := []
  capabilities := []
  exists_ := 0
  recent := 0
  uidvalidity := 0
  uids := []
  flags := []
  fullBody := false
  fileBuffer := ⟨0, false⟩
  bufferProxy := .memory
  buffer := []
  fetchedMessages := 0
  signaled := 0
  tags := 1
  maildir := .empty
  resolving := 0
  connecting := 0
  handshaking := 0
  reads := 0
  loginWaits := 0
  fetchWaits := 0
  signalWaits := 0
  shutdowns := 0
  inRead := false
  log := []
  trace := []

/-- One entry more in the log. -/
def emit (e : Effect) (c : Client) : Client := { c with log := c.log ++ [e] }

/-- One record more in the trace. -/
def probe (p : Probe) (c : Client) : Client := { c with trace := c.trace ++ [p] }

/-- An assignment to `state_`. -/
def assign (s : State) (c : Client) : Client :=
  { c with state := s, trace := c.trace ++ [.assign c.state s] }

/-! ## Asynchronous operations -/

/-- `Client::do_signal_wait`: `signals_.async_wait`. -/
def doSignalWait (c : Client) : Client :=
  { c with signalWaits := c.signalWaits + 1 }.emit .waitSignal

/-- `Client::do_resolve`. -/
def doResolve (c : Client) : Client := { c with resolving := c.resolving + 1 }.emit .resolve

/-- `Client::do_connect`. -/
def doConnect (c : Client) : Client := { c with connecting := c.connecting + 1 }.emit .connect

/-- `Client::do_handshake`. -/
def doHandshake (c : Client) : Client :=
  { c with handshaking := c.handshaking + 1 }.emit .handshake

/-- `Client::do_read`: `client_->async_read_some`. -/
def doRead (c : Client) : Client := { c with reads := c.reads + 1 }.emit .read

/-- `Client::do_pre_login`: `login_timer_` armed for `greeting_wait` milliseconds. -/
def doPreLogin (o : Options) (c : Client) : Client :=
  { c with loginWaits := c.loginWaits + 1 }.emit (.armLoginTimer o.greetingWait)

/-- `Client::resume_fetch_timer`: `fetch_timer_` armed for a second. -/
def resumeFetchTimer (c : Client) : Client :=
  { c with fetchWaits := c.fetchWaits + 1 }.emit .armFetchTimer

/-- `Client::start_fetch_timer`; the start time and byte count it records only feed the
statistics. -/
def startFetchTimer (c : Client) : Client := c.resumeFetchTimer

/-- `Client::stop_fetch_timer`: `fetch_timer_.cancel()`. -/
def stopFetchTimer (c : Client) : Client := c.emit .cancelFetchTimer

/-- `Client::do_shutdown`: `client_->async_shutdown`. -/
def doShutdown (c : Client) : Client :=
  { c with shutdowns := c.shutdowns + 1 }.emit .shutdown

/-- `Client::do_quit`: `client_->cancel()`, then `do_shutdown()`. -/
def doQuit (c : Client) : Client := (c.emit .cancel).doShutdown

/-- `Client::do_write`: `client_->push_write(cmd_)`. -/
def doWrite (cmd : Command) (c : Client) : Client := c.emit (.write cmd)

/-- `Client::Client`: the signal wait, then the resolve. -/
def new : Client := init.doSignalWait.doResolve

/-! ## Commands -/

/-- The writer draws the tag `tagName tags` and `tag_to_state_[tag] = next` files it. -/
def register (next : State) (c : Client) : Client :=
  { c with tags := c.tags + 1, tagToState := setTag (tagName c.tags) next c.tagToState }

/-- A writer command filed under `next`, then `do_write()`: the body `do_select`, `do_store`,
`do_uid_expunge`, `do_expunge` and the request of `do_capabilities` share. -/
def request (cmd : String → Command) (next : State) (c : Client) : Client :=
  (c.register next).doWrite (cmd (tagName c.tags))

/-- `Client::do_login`. -/
def doLogin (o : Options) (c : Client) : Except Failure Client :=
  if Capability.loginDisabled ∈ c.capabilities then
    .error (.msg "Cannot login because server has LOGINDISABLED")
  else
    let tag := tagName c.tags
    let c := { c with capabilities := [] }.register .loggedIn
    .ok ({ c with exists_ := 0, recent := 0, uidvalidity := 0, uids := [] }.doWrite
      (.login o.username o.password tag))

/-- `Client::do_select`. -/
def doSelect (o : Options) (c : Client) : Client := c.request (.select o.mailbox) .selectedMailbox

/-- The sequence set `do_fetch` asks for: `1:*`. -/
def fetchSet : List (UInt32 × UInt32) := [(1, 4294967295)]

/-- The attributes `do_fetch` asks for: UID, FLAGS, the date, from and subject header fields
and the whole message, both with `BODY.PEEK`. -/
def fetchAtts : List FetchAttribute :=
  [.uid, .flags, .bodyPeek (some (.headerFields ["date", "from", "subject"])), .bodyPeek none]

/-- `Client::do_fetch`. -/
def doFetch (c : Client) : Client :=
  let tag := tagName c.tags
  (((c.register .fetched).assign .fetching).startFetchTimer).doWrite (.fetch fetchSet fetchAtts tag)

/-- `Client::do_logout`. -/
def doLogout (c : Client) : Client :=
  let tag := tagName c.tags
  ((c.register .loggedOut).assign .loggingOut).doWrite (.logout tag)

/-- `Client::do_fetch_or_logout`. -/
def doFetchOrLogout (c : Client) : Client := if c.exists_ ≠ 0 then c.doFetch else c.doLogout

/-- `Client::do_store`. -/
def doStore (c : Client) : Client :=
  c.request (.uidStore (copyUids c.uids) [.deleted] .replace true) .stored

/-- `Client::do_store_or_logout`. -/
def doStoreOrLogout (o : Options) (c : Client) : Client := if o.del then c.doStore else c.doLogout

/-- `Client::has_uidplus`. -/
def hasUidplus (c : Client) : Bool := Capability.uidPlus ∈ c.capabilities

/-- `Client::do_uid_expunge`. -/
def doUidExpunge (c : Client) : Client := c.request (.uidExpunge (copyUids c.uids)) .expunged

/-- `Client::do_expunge`. -/
def doExpunge (c : Client) : Client := c.request .expunge .expunged

/-- `Client::do_uid_or_simple_expunge`. -/
def doUidOrSimpleExpunge (c : Client) : Client :=
  if c.hasUidplus then c.doUidExpunge else c.doExpunge

/-- `Client::do_capabilities`, with the `command()` it re-enters as a parameter. -/
def doCapabilitiesWith (command : Client → Except Failure Client) (c : Client) :
    Except Failure Client :=
  let c := c.probe (.capabilities c.state)
  if !c.capabilities.isEmpty then command (c.assign c.state.succ)
  else .ok (c.request .capability c.state.succ)

/-- `Client::command` given the number of enumerators left above `state_`: past `LAST_` no
case of the switch applies. -/
def commandFuel (o : Options) : Nat → Client → Except Failure Client
  | 0, c => .ok (c.probe (.command c.state))
  | n + 1, c =>
    let c := c.probe (.command c.state)
    match c.state with
    | .gotInitialCapabilities => c.doLogin o
    | .loggedIn => c.doCapabilitiesWith (commandFuel o n)
    | .gotCapabilities => .ok (c.doSelect o)
    | .selectedMailbox => .ok c.doFetchOrLogout
    | .fetched => .ok (c.stopFetchTimer.doStoreOrLogout o)
    | .stored => .ok c.doUidOrSimpleExpunge
    | .expunged => .ok c.doLogout
    | .loggedOut => .ok c.doQuit
    | _ => .ok c

/-- `Client::command`: the next action of the session, chosen by `state_`. -/
def command (o : Options) (c : Client) : Except Failure Client := commandFuel o c.state.above c

/-- `Client::do_capabilities`. -/
def doCapabilities (o : Options) (c : Client) : Except Failure Client :=
  c.doCapabilitiesWith (command o)

end Client

/-! ## The ingestor -/

/-- A call of the lexer into the client: the callbacks it overrides, and the bytes the lexer
writes through `buffer_proxy_`. -/
inductive Callback
  | statusCodeCapabilityBegin
  | capabilityBegin
  | capability (x : Capability)
  | taggedStatusEnd (tag : String) (status : Status)
  | dataExists (n : UInt32)
  | dataRecent (n : UInt32)
  | statusCodeUidvalidity (n : UInt32)
  | dataFetchBegin (n : UInt32)
  | dataFetchEnd
  | sectionEmpty
  | bodySectionInner
  | bodySectionEnd
  | flag (f : Flag)
  | uid (n : UInt32)
  | write (bytes : List Char)
deriving DecidableEq, Repr

namespace Client

/-- `Client::imap_tagged_status_end`; the tag is what the lexer put in `tag_buffer_`. -/
def imapTaggedStatusEnd (o : Options) (tag : String) (s : Status) (c : Client) :
    Except Failure Client :=
  if s ≠ .ok then .error (.msg ("Command failed: " ++ s.str ++ " - " ++ String.mk c.buffer))
  else match c.tagToState.lookup tag with
    | none => .error (.msg ("Got unknown tag: " ++ tag))
    | some next => { c.assign next with tagToState := eraseTag tag c.tagToState }.command o

/-- `Client::imap_body_section_inner`. -/
def imapBodySectionInner (c : Client) : Client :=
  if c.state = .fetching then
    if c.fullBody then
      let m := c.maildir.createTmpName
      { c with maildir := m.openTmp m.tmpName, fileBuffer := ⟨m.tmpName, true⟩,
               bufferProxy := .file }
    else c
  else c

/-- `Client::imap_body_section_end`. -/
def imapBodySectionEnd (c : Client) : Except Failure Client :=
  if c.state = .fetching then
    if c.fullBody then
      let c := { c with bufferProxy := .memory, fileBuffer := c.fileBuffer.close }
      let moved := if c.flags.isEmpty then c.maildir.moveToNew else c.maildir.moveToCur c.flags
      moved.map fun m =>
        { c with maildir := m, fullBody := false, fetchedMessages := c.fetchedMessages + 1 }
    else .ok c
  else .ok c

/-- `Client::imap_uid`. -/
def imapUid (n : UInt32) (c : Client) : Client :=
  if c.state = .fetching then { c with uids := c.uids ++ [n] } else c

/-- Bytes the lexer writes through `buffer_proxy_`. -/
def push (bs : List Char) (c : Client) : Client :=
  match c.bufferProxy with
  | .memory => { c with buffer := c.buffer ++ bs }
  | .file => { c with maildir := c.maildir.append c.fileBuffer.name bs }

/-- The client's side of one lexer callback. -/
def callback (o : Options) (c : Client) : Callback → Except Failure Client
  | .statusCodeCapabilityBegin => .ok { c with capabilities := [] }
  | .capabilityBegin => .ok c
  | .capability x => .ok { c with capabilities := c.capabilities.insert x }
  | .taggedStatusEnd tag s => c.imapTaggedStatusEnd o tag s
  | .dataExists n => .ok { c with exists_ := n }
  | .dataRecent n => .ok { c with recent := n }
  | .statusCodeUidvalidity n => .ok { c with uidvalidity := n }
  | .dataFetchBegin _ => .ok { c with flags := [] }
  | .dataFetchEnd => .ok c
  | .sectionEmpty => .ok { c with fullBody := true }
  | .bodySectionInner => .ok c.imapBodySectionInner
  | .bodySectionEnd => c.imapBodySectionEnd
  | .flag f => .ok { c with flags := c.flags ++ f.letter?.toList }
  | .uid n => .ok (c.imapUid n)
  | .write bs => .ok (c.push bs)

/-- The callbacks of one chunk of input, in order. -/
def callbacks (o : Options) (c : Client) (cbs : List Callback) : Except Failure Client :=
  cbs.foldlM (callback o) c

end Client

/-! ## The event loop -/

/-- A step of the event loop: a completion, a timer, a signal, or, inside the read handler,
one lexer callback and the handler's tail. -/
inductive Event
  | resolved (r : Option ErrorCode)
  | connected (r : Option ErrorCode)
  | handshaken (r : Option ErrorCode)
  | loginTimer (r : Option ErrorCode)
  | fetchTimer (r : Option ErrorCode)
  | signal (r : Option ErrorCode) (number : Int)
  | shutdown (r : Option ErrorCode)
  | readFailed (ec : ErrorCode)
  | readData
  | callback (cb : Callback)
  | readEnd
deriving DecidableEq, Repr

namespace Client

/-- The handler of `do_signal_wait`. -/
def onSignal (r : Option ErrorCode) (n : Int) (c : Client) : Except Failure Client :=
  match r with
  | some ec => if ec.value = operationCanceled then .ok c else .error (.error ec)
  | none =>
    if c.signaled ≠ 0 then
      .error (.msg ("Got a signal (" ++ toString n ++ ") the second time - immediate exit"))
    else .ok { c with signaled := c.signaled + 1 }.doSignalWait.doQuit

/-- The handler of `do_resolve`. -/
def onResolve (r : Option ErrorCode) (c : Client) : Except Failure Client :=
  match r with
  | some ec => .error (.error ec)
  | none => .ok c.doConnect

/-- The handler of `do_connect`. -/
def onConnect (r : Option ErrorCode) (c : Client) : Except Failure Client :=
  match r with
  | some ec => .error (.error ec)
  | none => .ok c.doHandshake

/-- The handler of `do_handshake`. -/
def onHandshake (o : Options) (r : Option ErrorCode) (c : Client) : Except Failure Client :=
  match r with
  | some ec => .error (.error ec)
  | none => .ok (((c.assign .established).doRead).doPreLogin o)

/-- The handler of `do_pre_login`. -/
def onLoginTimer (o : Options) (r : Option ErrorCode) (c : Client) : Except Failure Client :=
  match r with
  | some ec => .error (.error ec)
  | none => c.doCapabilities o

/-- The handler of `resume_fetch_timer`; the statistics it prints are left out. -/
def onFetchTimer (r : Option ErrorCode) (c : Client) : Except Failure Client :=
  match r with
  | some ec => if ec.value = operationAborted then .ok c else .error (.error ec)
  | none => .ok c.resumeFetchTimer

/-- The handler of `do_shutdown`: a short read or a bad record MAC during the close is benign;
then the socket is closed and the signal wait cancelled. -/
def onShutdown (r : Option ErrorCode) (c : Client) : Except Failure Client :=
  let closed := (c.emit .close).emit .cancelSignals
  match r with
  | none => .ok closed
  | some ec =>
    if ec.isShortRead then .ok closed
    else if ec.category = .ssl ∧ errGetReason ec.value = sslRDecryptionFailedOrBadRecordMac then
      .ok closed
    else .error (.error ec)

/-- The error branch of the handler of `do_read`. -/
def onReadError (ec : ErrorCode) (c : Client) : Except Failure Client :=
  if c.state = .loggedOut ∧ (ec.isShortRead ∨ (ec.category = .misc ∧ ec.value = errorEof)) then
    .ok c
  else .error (.error ec)

/-- The tail of the handler of `do_read`, after the lexer has run. -/
def onReadEnd (c : Client) : Client := if c.state ≠ .loggedOut then c.doRead else c

/-- The handler of `do_read` as one function: an error, or the callbacks of the bytes read and
the tail. -/
def onRead (o : Options) (r : Except ErrorCode (List Callback)) (c : Client) :
    Except Failure Client :=
  match r with
  | .error ec => c.onReadError ec
  | .ok cbs => (c.callbacks o cbs).map onReadEnd

/-- The steps the event loop can take: a completion it owes, outside the read handler, or a
callback and the tail inside it. -/
def enabled (c : Client) : Event → Bool
  | .resolved _ => !c.inRead && c.resolving != 0
  | .connected _ => !c.inRead && c.connecting != 0
  | .handshaken _ => !c.inRead && c.handshaking != 0
  | .loginTimer _ => !c.inRead && c.loginWaits != 0
  | .fetchTimer _ => !c.inRead && c.fetchWaits != 0
  | .signal _ _ => !c.inRead && c.signalWaits != 0
  | .shutdown _ => !c.inRead && c.shutdowns != 0
  | .readFailed _ => !c.inRead && c.reads != 0
  | .readData => !c.inRead && c.reads != 0
  | .callback _ => c.inRead
  | .readEnd => c.inRead

/-- One step of the event loop; a completion is no longer owed once its handler runs. -/
def step (o : Options) (c : Client) : Event → Except Failure Client
  | .resolved r => { c with resolving := c.resolving - 1 }.onResolve r
  | .connected r => { c with connecting := c.connecting - 1 }.onConnect r
  | .handshaken r => { c with handshaking := c.handshaking - 1 }.onHandshake o r
  | .loginTimer r => { c with loginWaits := c.loginWaits - 1 }.onLoginTimer o r
  | .fetchTimer r => { c with fetchWaits := c.fetchWaits - 1 }.onFetchTimer r
  | .signal r n => { c with signalWaits := c.signalWaits - 1 }.onSignal r n
  | .shutdown r => { c with shutdowns := c.shutdowns - 1 }.onShutdown r
  | .readFailed ec => { c with reads := c.reads - 1 }.onReadError ec
  | .readData => .ok { c with reads := c.reads - 1, inRead := true }
  | .callback cb => c.callback o cb
  | .readEnd => .ok { c with inRead := false }.onReadEnd

/-- The runs of a session in which no handler raises, each step with the state it was taken
in. -/
inductive Run (o : Options) : Client → List (State × Event) → Prop
  | start : Run o new []
  | step {c : Client} {h : List (State × Event)} {e : Event} {c' : Client} :
      Run o c h → c.enabled e → c.step o e = .ok c' → Run o c' (h ++ [(c.state, e)])

/-- The clients a session passes through. -/
def Reachable (o : Options) (c : Client) : Prop := ∃ h, Run o c h

/-- A run of given events, if they can all be taken without a handler raising. -/
def exec (o : Options) : Client → List Event → Option Client
  | c, [] => some c
  | c, e :: es =>
    if c.enabled e then
      match c.step o e with
      | .ok c' => c'.exec o es
      | .error _ => none
    else none

end Client

end Imapdl
