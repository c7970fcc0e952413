import Imapdl.Basic

/-!
# imapdl - The conversation the client conducts

What the session is for, stated apart from the code: after the greeting, the client asks for
the capabilities unless it already knows them, logs in unless the server forbids it, asks for
the capabilities again unless LOGIN's response brought them, selects the mailbox, and then
either logs out at once (an empty mailbox) or fetches everything and, when told to delete,
flags the fetched UIDs deleted, expunges them (by UID when the server has UIDPLUS) and logs out.

The conversation is a machine over stages, each stage the command whose tagged OK it awaits.
A stage completes when the greeting timer fires or the OK arrives; {lit}`Stage.next` then says,
from what the client knows at that moment, which commands it writes and which stage follows.
Every conversation the machine conducts is a prefix of one of sixteen scripts.

Main definitions:

- Inductive {lit}`Stage` and {lit}`Stage.next`: the machine.
- Definition {lit}`script`: the sixteen complete conversations.

Main results:

- Theorem {lit}`Stage.Trace.prefix_script`: the commands of every trace of the machine are a
  prefix of a script.
-/

namespace Imapdl

/-- A command without its tag and arguments, but the flags of a UID STORE. -/
inductive Kind
  | capability | login | select | fetch | uidStore (flags : List Flag) | uidExpunge | expunge
  | logout
deriving DecidableEq, Repr

/-- The kind of a command the writer produces. -/
def Command.kind : Command → Kind
  | .capability _ => .capability
  | .login .. => .login
  | .select .. => .select
  | .fetch .. => .fetch
  | .uidStore _ flags _ _ _ => .uidStore flags
  | .uidExpunge .. => .uidExpunge
  | .expunge _ => .expunge
  | .logout _ => .logout

/-- Where the conversation stands: before any command, waiting for the tagged OK of a command,
or over. -/
inductive Stage
  | greeting | initialCapability | login | capability | select | fetch | store | expunge
  | logout | done
deriving DecidableEq, Repr

/-- What the client consults when a stage completes. -/
structure View where
  capabilities : List Capability
  exists_ : UInt32
  del : Bool

/-- The tails after SELECT: LOGOUT for an empty mailbox; FETCH, then LOGOUT, or the deletion by
UID STORE and UID EXPUNGE or EXPUNGE, then LOGOUT. -/
def tails : List (List Kind) :=
  [[.logout], [.fetch, .logout], [.fetch, .uidStore [.deleted], .uidExpunge, .logout],
    [.fetch, .uidStore [.deleted], .expunge, .logout]]

/-- The conversations after LOGIN's OK: CAPABILITY if the capabilities are unknown, SELECT, a
tail. -/
def afterLogin : List (List Kind) :=
  tails.map (.capability :: .select :: ·) ++ tails.map (.select :: ·)

namespace Stage

/-- Once the capabilities are known before login: LOGIN, unless the server has LOGINDISABLED,
in which case the conversation stops. -/
def login? (v : View) : Option (List Kind × Stage) :=
  if Capability.loginDisabled ∈ v.capabilities then none else some ([.login], .login)

/-- The completion of a stage: the commands written and the next stage, or none when the client
stops (LOGINDISABLED) or nothing is pending. -/
def next : Stage → View → Option (List Kind × Stage)
  | greeting, v => if v.capabilities = [] then some ([.capability], initialCapability) else login? v
  | initialCapability, v => login? v
  | login, v =>
    if v.capabilities = [] then some ([.capability], capability) else some ([.select], select)
  | capability, _ => some ([.select], select)
  | select, v => if v.exists_ = 0 then some ([.logout], logout) else some ([.fetch], fetch)
  | fetch, v => if v.del then some ([.uidStore [.deleted]], store) else some ([.logout], logout)
  | store, v =>
    if Capability.uidPlus ∈ v.capabilities then some ([.uidExpunge], expunge)
    else some ([.expunge], expunge)
  | expunge, _ => some ([.logout], logout)
  | logout, _ => some ([], done)
  | done, _ => none

/-- The conversations a stage can still lead to, written after it. -/
def completions : Stage → List (List Kind)
  | done | logout => [[]]
  | expunge => [[.logout]]
  | store => [[.uidExpunge, .logout], [.expunge, .logout]]
  | fetch => [[.logout], [.uidStore [.deleted], .uidExpunge, .logout],
      [.uidStore [.deleted], .expunge, .logout]]
  | select => tails
  | capability => tails.map (.select :: ·)
  | login => afterLogin
  | initialCapability => afterLogin.map (.login :: ·)
  | greeting => afterLogin.map (.capability :: .login :: ·) ++ afterLogin.map (.login :: ·)

/-- A completed stage's commands followed by a conversation of the next stage are a conversation
of the completed one. -/
theorem next_completions {s s' : Stage} {v : View} {ks : List Kind}
    (h : s.next v = some (ks, s')) : ∀ rest ∈ s'.completions, ks ++ rest ∈ s.completions := by
  cases s <;> simp only [next, login?] at h <;> (repeat' split at h) <;>
    simp only [Option.some.injEq, Prod.mk.injEq, reduceCtorEq] at h <;>
    obtain ⟨rfl, rfl⟩ := h <;> decide

/-- The traces of the machine from the greeting: the stage reached and the commands written. -/
inductive Trace : Stage → List Kind → Prop
  | greeting : Trace greeting []
  | next {s s' : Stage} {ks ks' : List Kind} (v : View) :
      Trace s ks → s.next v = some (ks', s') → Trace s' (ks ++ ks')

theorem Trace.completion_mem {s : Stage} {ks : List Kind} (t : Trace s ks) :
    ∀ rest ∈ s.completions, ks ++ rest ∈ Stage.greeting.completions := by
  induction t with
  | greeting => exact fun rest h => h
  | next v _ hn ih =>
    intro rest hr
    rw [List.append_assoc]
    exact ih _ (next_completions hn rest hr)

/-- No stage leads back to the greeting, and only the greeting leads to the first CAPABILITY,
writing it alone. -/
theorem next_opening {s s' : Stage} {v : View} {ks : List Kind} (h : s.next v = some (ks, s'))
    (hs : s' = greeting ∨ s' = initialCapability) : s = greeting ∧ ks = [.capability] := by
  cases s <;> simp only [next, login?] at h <;> (repeat' split at h) <;>
    simp only [Option.some.injEq, Prod.mk.injEq, reduceCtorEq] at h <;>
    obtain ⟨rfl, rfl⟩ := h <;> simp at hs ⊢

/-- Before LOGIN's stage, no trace has written LOGIN. -/
theorem Trace.login_not_mem {s : Stage} {ks : List Kind} (t : Trace s ks)
    (hs : s = .greeting ∨ s = .initialCapability) : Kind.login ∉ ks := by
  induction t with
  | greeting => simp
  | next v _ hn ih =>
    obtain ⟨rfl, rfl⟩ := next_opening hn hs
    simpa using ih (.inl rfl)

end Stage

/-- A complete conversation: CAPABILITY if the greeting brought no capabilities, LOGIN,
CAPABILITY if LOGIN's response brought none, SELECT, then the tail. -/
def script (first second : Bool) (tail : List Kind) : List Kind :=
  (if first then [.capability] else []) ++ [.login] ++ (if second then [.capability] else []) ++
    [.select] ++ tail

/-- The conversations of the machine are exactly the scripts. -/
theorem completions_greeting (ks : List Kind) :
    ks ∈ Stage.greeting.completions ↔
      ∃ first second, ∃ tail ∈ tails, ks = script first second tail := by
  constructor
  · revert ks
    decide
  · rintro ⟨first, second, tail, ht, rfl⟩
    revert first second tail
    decide

/-- The commands of every trace of the machine are a prefix of a script. -/
theorem Stage.Trace.prefix_script {s : Stage} {ks : List Kind} (t : Stage.Trace s ks) :
    ∃ first second, ∃ tail ∈ tails, ks <+: script first second tail := by
  obtain ⟨rest, hr⟩ := List.exists_mem_of_ne_nil s.completions (by cases s <;> decide)
  obtain ⟨first, second, tail, ht, he⟩ := (completions_greeting _).1 (t.completion_mem rest hr)
  exact ⟨first, second, tail, ht, ⟨rest, he⟩⟩

end Imapdl
