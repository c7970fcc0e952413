import Mathlib.Data.List.Basic

/-!
# imapdl - States, capabilities, flags and commands of a copy session

This module fixes the vocabulary of `IMAP::Copy::Client`: the session state enumeration with the
integer increment the code advances it by, the capability tokens and system flags the lexer
reports, the error codes the completion handlers classify, the exceptions they raise, and the
commands the writer produces.

Main definitions:

- Structure {lit}`State`: the enumerator's underlying value, so that {lit}`state_ + 1` past
  {lit}`LAST_` is representable and "stays in range" is a statement about the code.
- Definitions {lit}`State.waiting`, {lit}`State.idle` and {lit}`State.dispatched`: the states in
  which a tag can be pending, in which none is, and in which {lit}`command()` can be entered.
- Inductive {lit}`Command`: the writer's output, one constructor per writer call.

Current gaps:

- The enumerations {lit}`Capability`, {lit}`Flag` and {lit}`Status` are declared outside the
  repository's sources; only the values the client reads are fixed here.
-/

namespace Imapdl

/-! ## Session states -/

/-- `IMAP::Copy::State`, held as the enumerator's underlying value: `operator++` and
`operator+` add to it, so a value past `LAST_` can be formed. -/
structure State where
  val : Nat
deriving DecidableEq, Repr

namespace State

/-- The enumerators in the order of `state_map`, between the sentinels `FIRST_` and `LAST_`. -/
@[match_pattern] def first : State := ⟨0⟩
@[match_pattern] def disconnected : State := ⟨1⟩
@[match_pattern] def established : State := ⟨2⟩
@[match_pattern] def gotInitialCapabilities : State := ⟨3⟩
@[match_pattern] def loggedIn : State := ⟨4⟩
@[match_pattern] def gotCapabilities : State := ⟨5⟩
@[match_pattern] def selectedMailbox : State := ⟨6⟩
@[match_pattern] def fetching : State := ⟨7⟩
@[match_pattern] def fetched : State := ⟨8⟩
@[match_pattern] def stored : State := ⟨9⟩
@[match_pattern] def expunged : State := ⟨10⟩
@[match_pattern] def loggingOut : State := ⟨11⟩
@[match_pattern] def loggedOut : State := ⟨12⟩
@[match_pattern] def «end» : State := ⟨13⟩
@[match_pattern] def last : State := ⟨14⟩

/-- `operator++(State &)` and `operator+(State, 1)`: increment of the underlying value. -/
def succ (s : State) : State := ⟨s.val + 1⟩

instance : LT State := ⟨fun a b => a.val < b.val⟩
instance : LE State := ⟨fun a b => a.val ≤ b.val⟩
instance (a b : State) : Decidable (a < b) := inferInstanceAs (Decidable (a.val < b.val))
instance (a b : State) : Decidable (a ≤ b) := inferInstanceAs (Decidable (a.val ≤ b.val))

/-- Enumerators from `s` up to `LAST_`. `command()` re-enters itself only through
`do_capabilities`, one increment later, so this bounds the recursion. -/
def above (s : State) : Nat := last.val + 1 - s.val

/-- The states in which the tag of a command can be pending. -/
def waiting : List State :=
  [established, gotInitialCapabilities, loggedIn, gotCapabilities, fetching, fetched, stored,
    loggingOut]

/-- The states in which no command is pending. -/
def idle : List State := [disconnected, established, loggedOut]

/-- The states in which `command()` may be entered: one increment past a waiting state. -/
def dispatched : List State :=
  [gotInitialCapabilities, loggedIn, gotCapabilities, selectedMailbox, fetched, stored, expunged,
    loggedOut]

theorem dispatched_eq_map_succ : dispatched = waiting.map succ := rfl

end State

/-- `state_map`, the names `operator<<` prints, from `DISCONNECTED` to `END`. -/
def stateMap : List String :=
  ["DISCONNECTED", "ESTABLISHED", "GOT_INITIAL_CAPABILITIES", "LOGGED_IN", "GOT_CAPABILITIES",
    "SELECTED_MAILBOX", "FETCHING", "FETCHED", "STORED", "EXPUNGED", "LOGGING_OUT", "LOGGED_OUT",
    "END"]

/-- `operator<<(std::ostream &, State)`: `enum_str(state_map, s)`, defined for the enumerators
from `DISCONNECTED` on. -/
def State.str? (s : State) : Option String :=
  if s.val = 0 then none else stateMap.get? (s.val - 1)

/-! ## Capabilities, flags and statuses -/

/-- `IMAP::Server::Response::Capability`: a capability token reported by the lexer. -/
structure Capability where
  name : String
deriving DecidableEq, Repr

/-- `Capability::LOGINDISABLED`. -/
def Capability.loginDisabled : Capability := ⟨"LOGINDISABLED"⟩

/-- `Capability::UIDPLUS`. -/
def Capability.uidPlus : Capability := ⟨"UIDPLUS"⟩

/-- `IMAP::Flag`: the system flags, with the sentinels the client's switch lists. -/
inductive Flag
  | first | answered | flagged | deleted | seen | draft | recent | last
deriving DecidableEq, Repr

/-- The maildir letter of a flag, as `Client::imap_flag` appends it. -/
def Flag.letter? : Flag → Option Char
  | .answered => some 'R'
  | .seen => some 'S'
  | .flagged => some 'F'
  | .draft => some 'D'
  | .recent | .deleted | .first | .last => none

/-- `IMAP::Server::Response::Status` of a tagged response. -/
inductive Status
  | ok | no | bad
deriving DecidableEq, Repr

/-- The keyword `operator<<` prints for a status. -/
def Status.str : Status → String
  | .ok => "OK"
  | .no => "NO"
  | .bad => "BAD"

/-! ## Error codes and exceptions -/

/-- The category of a `boost::system::error_code`. -/
inductive Category
  | system | ssl | misc
deriving DecidableEq, Repr

/-- A `boost::system::error_code`. -/
structure ErrorCode where
  category : Category
  value : Nat
deriving DecidableEq, Repr

/-- OpenSSL's `ERR_PACK(lib, func, reason)`: the library in bits 24..31, the function in bits
12..23 and the reason in bits 0..11. -/
def errPack (lib func reason : Nat) : Nat :=
  lib % 256 * 16777216 + func % 4096 * 4096 + reason % 4096

/-- OpenSSL's `ERR_GET_REASON(e)`. -/
def errGetReason (e : Nat) : Nat := e % 4096

/-- `ERR_LIB_SSL`. -/
def errLibSsl : Nat := 20

/-- `SSL_R_SHORT_READ`. -/
def sslRShortRead : Nat := 219

/-- `SSL_R_DECRYPTION_FAILED_OR_BAD_RECORD_MAC`. -/
def sslRDecryptionFailedOrBadRecordMac : Nat := 281

/-- `boost::asio::error::eof`, of the misc category. -/
def errorEof : Nat := 2

/-- `boost::asio::error::operation_aborted`: `ECANCELED`. -/
def operationAborted : Nat := 125

/-- `boost::system::errc::operation_canceled`: `ECANCELED`. -/
def operationCanceled : Nat := 125

/-- The TLS short read: the peer closed the connection without a close-notify. -/
def ErrorCode.isShortRead (ec : ErrorCode) : Bool :=
  ec.category == .ssl && ec.value == errPack errLibSsl 0 sslRShortRead

/-- What a handler raises: `THROW_ERROR(ec)`, `THROW_MSG(text)`, or the maildir failing to
rename a temporary file it does not hold. -/
inductive Failure
  | error (ec : ErrorCode)
  | msg (text : String)
  | maildir (name : Nat)
deriving DecidableEq, Repr

/-! ## Commands -/

/-- `IMAP::Section_Attribute`, as `do_fetch` builds it. -/
inductive SectionAttribute
  | headerFields (fields : List String)
deriving DecidableEq, Repr

/-- `IMAP::Client::Fetch_Attribute`, as `do_fetch` builds them. -/
inductive FetchAttribute
  | uid
  | flags
  | bodyPeek (part : Option SectionAttribute)
deriving DecidableEq, Repr

/-- `IMAP::Client::Store_Mode`, the mode `do_store` passes. -/
inductive StoreMode
  | replace
deriving DecidableEq, Repr

/-- A command the writer produced into `cmd_`, with the tag it drew. -/
inductive Command
  | capability (tag : String)
  | login (user pass : String) (tag : String)
  | select (mailbox : String) (tag : String)
  | fetch (set : List (UInt32 × UInt32)) (atts : List FetchAttribute) (tag : String)
  | uidStore (set : List (UInt32 × UInt32)) (flags : List Flag) (mode : StoreMode)
      (silent : Bool) (tag : String)
  | uidExpunge (set : List (UInt32 × UInt32)) (tag : String)
  | expunge (tag : String)
  | logout (tag : String)
deriving DecidableEq, Repr

/-- The tag the writer draws from `tags_` for its `n`-th command. -/
def tagName (n : Nat) : String := "A" ++ toString n

/-- `IMAP::Copy::Options`, the fields the client reads. -/
structure Options where
  username : String
  password : String
  mailbox : String
  greetingWait : Nat
  del : Bool
deriving DecidableEq, Repr

end Imapdl
