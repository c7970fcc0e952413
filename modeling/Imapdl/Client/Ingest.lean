import Imapdl.Client.Invariant

/-!
# imapdl - Streaming FETCH responses into the maildir

While the client is FETCHING, the lexer reports each FETCH response as a run of callbacks:
{lit}`imap_data_fetch_begin`, the callbacks of its items, {lit}`imap_data_fetch_end`.  A body
section is bracketed by {lit}`imap_body_section_inner` and {lit}`imap_body_section_end` with only
byte writes through {lit}`buffer_proxy_` between them, and a {lit}`BODY[]` item announces its
empty section with {lit}`imap_section_empty` first.  This module gives that grammar as a type of
items, reads the callbacks of each item back as one operation on the client, and proves that
the callbacks of a response compute exactly the fold of those operations.

The item-level reading makes two consequences of the code plain.  The flag suffix of a
delivered file holds the letters of the flags received before its body section ended, so a
FLAGS item after {lit}`BODY[]` is lost.  {lit}`full_body_` is reset only when a streamed
section ends, so a {lit}`BODY[]` whose value is NIL leaves it set, and the next body section,
whatever section it is, is streamed into the maildir as a message.

Main definitions:

- Inductive {lit}`Item`: an item of a FETCH response, with {lit}`Item.callbacks`.
- Definition {lit}`Client.applyItem`: what the callbacks of one item do in FETCHING.

Main results:

- Theorem {lit}`Client.callbacks_fetchResponse`: the callbacks of a FETCH response are the fold
  of {lit}`Client.applyItem` over its items.
- Theorem {lit}`Client.body_delivery`: a {lit}`BODY[]` item is delivered with exactly its bytes and
  the letters of the flags before it in the same response.
- Theorem {lit}`Client.flags_after_body_run`: along the spec's session, a FLAGS item after the
  body does not reach the file name.
- Theorem {lit}`Client.stale_full_body`: a header section after a NIL body is delivered as a
  message.
- Theorem {lit}`Client.deliveries_increasing`: along every run the messages are delivered under
  strictly increasing names, so none replaces another.
-/

namespace Imapdl

/-- Modelled from the spec: an item of a FETCH response as the lexer reports it.  Bytes outside
the sections, a UID, a FLAGS list, a {lit}`BODY[HEADER.FIELDS (...)]` section with the chunks of
its literal, and a {lit}`BODY[]` section with the chunks of its literal or NIL. -/
inductive Item
  | text (bytes : List Char)
  | uid (n : UInt32)
  | flags (fs : List Flag)
  | headerFields (chunks : List (List Char))
  | body (chunks : Option (List (List Char)))
deriving DecidableEq, Repr

namespace Item

/-- A section's literal, written through the proxy inside its bracket. -/
def sectionCallbacks (chunks : List (List Char)) : List Callback :=
  .bodySectionInner :: chunks.map .write ++ [.bodySectionEnd]

/-- The callbacks the lexer makes for an item. -/
def callbacks : Item → List Callback
  | text bytes => [.write bytes]
  | uid n => [.uid n]
  | flags fs => fs.map .flag
  | headerFields chunks => sectionCallbacks chunks
  | body (some chunks) => .sectionEmpty :: sectionCallbacks chunks
  | body none => [.sectionEmpty]

/-- The maildir letters of an item's flags. -/
def letters : Item → List Char
  | flags fs => fs.flatMap fun f => f.letter?.toList
  | _ => []

end Item

/-- The callbacks of one FETCH response. -/
def fetchResponse (n : UInt32) (items : List Item) : List Callback :=
  .dataFetchBegin n :: items.flatMap Item.callbacks ++ [.dataFetchEnd]

/-- The flag argument of the rename: {lit}`move_to_new` for no letters, {lit}`move_to_cur` with
them otherwise. -/
def flagField (fs : List Char) : Option (List Char) := if fs.isEmpty then none else some fs

namespace Client

/-! ## The item-level reading -/

/-- A body section streamed into a file: the file delivered with the letters so far, the proxy
back at {lit}`buffer_`, the file closed and {lit}`full_body_` reset. -/
def deliver (c : Client) (bytes : List Char) : Client :=
  { c with maildir := c.maildir.deliver (flagField c.flags) bytes,
           fileBuffer := ⟨c.maildir.serial, false⟩, bufferProxy := .memory, fullBody := false,
           fetchedMessages := c.fetchedMessages + 1 }

/-- A body section: streamed into the maildir if {lit}`full_body_` is set, into {lit}`buffer_`
otherwise. -/
def streamSection (c : Client) (bytes : List Char) : Client :=
  if c.fullBody then c.deliver bytes else { c with buffer := c.buffer ++ bytes }

/-- What the callbacks of one item do to a client in FETCHING between items. -/
def applyItem (c : Client) : Item → Client
  | .text bytes => { c with buffer := c.buffer ++ bytes }
  | .uid n => { c with uids := c.uids ++ [n] }
  | .flags fs => { c with flags := c.flags ++ (Item.flags fs).letters }
  | .headerFields chunks => c.streamSection chunks.flatten
  | .body (some chunks) => { c with fullBody := true }.streamSection chunks.flatten
  | .body none => { c with fullBody := true }

/-- Between the items of a response: FETCHING, the proxy at {lit}`buffer_`, the file closed, and
the next temporary name fresh. -/
structure Ingesting (c : Client) : Prop where
  state : c.state = .fetching
  proxy : c.bufferProxy = .memory
  closed : c.fileBuffer.isOpen = false
  fresh : c.maildir.Fresh

instance (c : Client) : Decidable c.Ingesting :=
  decidable_of_iff (c.state = .fetching ∧ c.bufferProxy = .memory ∧
      c.fileBuffer.isOpen = false ∧ c.maildir.Fresh)
    ⟨fun ⟨a, b, d, e⟩ => ⟨a, b, d, e⟩, fun ⟨a, b, d, e⟩ => ⟨a, b, d, e⟩⟩

theorem Ingesting.streamSection {c : Client} (hc : c.Ingesting) (bytes : List Char) :
    (c.streamSection bytes).Ingesting := by
  unfold Client.streamSection
  split
  · exact ⟨hc.state, rfl, rfl, hc.fresh.deliver _ _⟩
  · exact ⟨hc.state, hc.proxy, hc.closed, hc.fresh⟩

theorem Ingesting.applyItem {c : Client} (hc : c.Ingesting) (item : Item) :
    (c.applyItem item).Ingesting := by
  have hb : ({ c with fullBody := true }).Ingesting := ⟨hc.state, hc.proxy, hc.closed, hc.fresh⟩
  cases item with
  | text bytes => exact ⟨hc.state, hc.proxy, hc.closed, hc.fresh⟩
  | uid n => exact ⟨hc.state, hc.proxy, hc.closed, hc.fresh⟩
  | flags fs => exact ⟨hc.state, hc.proxy, hc.closed, hc.fresh⟩
  | headerFields chunks => exact hc.streamSection _
  | body chunks =>
    cases chunks with
    | none => exact hb
    | some chunks => exact hb.streamSection _

/-! ## The callbacks of an item -/

theorem callbacks_append (o : Options) (c : Client) (l₁ l₂ : List Callback) :
    c.callbacks o (l₁ ++ l₂) = (c.callbacks o l₁).bind fun c' => c'.callbacks o l₂ :=
  List.foldlM_append _ _ _ _

theorem callbacks_append_of_ok {o : Options} {c c₁ : Client} {l₁ : List Callback}
    (h : c.callbacks o l₁ = .ok c₁) (l₂ : List Callback) :
    c.callbacks o (l₁ ++ l₂) = c₁.callbacks o l₂ := by
  rw [callbacks_append, h]
  rfl

/-- Writes through a proxy at {lit}`buffer_` land in {lit}`buffer_`. -/
theorem callbacks_writes_memory (o : Options) (chunks : List (List Char)) :
    ∀ c : Client, c.bufferProxy = .memory →
      c.callbacks o (chunks.map .write) = .ok { c with buffer := c.buffer ++ chunks.flatten } := by
  induction chunks with
  | nil =>
    intro c _
    simp only [List.map_nil, callbacks, List.foldlM_nil, List.flatten_nil, List.append_nil]
    rfl
  | cons bs rest ih =>
    intro c hp
    have hw : c.callback o (.write bs) = .ok { c with buffer := c.buffer ++ bs } := by
      simp only [callback, push, hp]
    rw [List.map_cons, callbacks_cons, hw]
    refine (ih { c with buffer := c.buffer ++ bs } hp).trans ?_
    simp

/-- Writes through a proxy at {lit}`file_buffer_` land in that file. -/
theorem callbacks_writes_file (o : Options) (chunks : List (List Char)) :
    ∀ c : Client, c.bufferProxy = .file →
      c.callbacks o (chunks.map .write) =
        .ok { c with maildir := c.maildir.append c.fileBuffer.name chunks.flatten } := by
  induction chunks with
  | nil =>
    intro c _
    simp only [List.map_nil, callbacks, List.foldlM_nil, List.flatten_nil, Maildir.append_nil]
    rfl
  | cons bs rest ih =>
    intro c hp
    have hw : c.callback o (.write bs) =
        .ok { c with maildir := c.maildir.append c.fileBuffer.name bs } := by
      simp only [callback, push, hp]
    rw [List.map_cons, callbacks_cons, hw]
    refine (ih { c with maildir := c.maildir.append c.fileBuffer.name bs } hp).trans ?_
    simp [Maildir.append_append]

/-- The bracket of a body section: {lit}`imap_body_section_inner`, the writes,
{lit}`imap_body_section_end`. -/
theorem callbacks_section {o : Options} {c : Client} (hc : c.Ingesting)
    (chunks : List (List Char)) :
    c.callbacks o (Item.sectionCallbacks chunks) = .ok (c.streamSection chunks.flatten) := by
  unfold Item.sectionCallbacks streamSection
  rw [List.cons_append, callbacks_cons]
  cases hb : c.fullBody
  · have hin : c.imapBodySectionInner = c := by simp [imapBodySectionInner, hb]
    simp only [callback, hin, Except.bind]
    rw [callbacks_append_of_ok (callbacks_writes_memory o chunks c hc.proxy)]
    simp [callbacks, callback, imapBodySectionEnd, hc.state, hb]
  · simp only [callback, imapBodySectionInner, hc.state, hb, if_true, Except.bind]
    rw [callbacks_append_of_ok (callbacks_writes_file o chunks _ rfl)]
    have hmove := Maildir.moveTo_stream hc.fresh (flagField c.flags) chunks.flatten
    have hif : ∀ m : Maildir, (if c.flags.isEmpty = true then m.moveToNew
        else m.moveToCur c.flags) = m.moveTo (flagField c.flags) := by
      intro m
      unfold flagField
      split <;> rfl
    simp only [callbacks, List.foldlM_cons, List.foldlM_nil, callback, imapBodySectionEnd,
      hc.state, hb, if_true, hif, Maildir.createTmpName] at hmove ⊢
    rw [hmove]
    simp [Except.map, deliver, hc.state, FileBuffer.close]

theorem callbacks_flags (o : Options) (fs : List Flag) :
    ∀ c : Client, c.callbacks o (fs.map .flag) =
      .ok { c with flags := c.flags ++ fs.flatMap fun f => f.letter?.toList } := by
  induction fs with
  | nil =>
    intro c
    simp only [List.map_nil, callbacks, List.foldlM_nil, List.flatMap_nil, List.append_nil]
    rfl
  | cons f rest ih =>
    intro c
    rw [List.map_cons, callbacks_cons]
    simp only [callback, Except.bind]
    rw [ih]
    simp

/-- The callbacks of one item compute {lit}`applyItem`. -/
theorem callbacks_item {o : Options} {c : Client} (hc : c.Ingesting) (item : Item) :
    c.callbacks o item.callbacks = .ok (c.applyItem item) := by
  cases item with
  | text bytes => simp [Item.callbacks, callbacks, callback, push, hc.proxy, applyItem]
  | uid n => simp [Item.callbacks, callbacks, callback, imapUid, hc.state, applyItem]
  | flags fs => exact callbacks_flags o fs c
  | headerFields chunks => exact callbacks_section hc chunks
  | body chunks =>
    have hb : ({ c with fullBody := true }).Ingesting :=
      ⟨hc.state, hc.proxy, hc.closed, hc.fresh⟩
    cases chunks with
    | none => rfl
    | some chunks =>
      rw [Item.callbacks, callbacks_cons]
      exact callbacks_section hb chunks

/-- The callbacks of a run of items compute the fold of {lit}`applyItem`. -/
theorem callbacks_items (o : Options) (items : List Item) :
    ∀ c : Client, c.Ingesting →
      c.callbacks o (items.flatMap Item.callbacks) = .ok (items.foldl applyItem c) := by
  induction items with
  | nil => intro c _; rfl
  | cons item rest ih =>
    intro c hc
    rw [List.flatMap_cons, callbacks_append_of_ok (callbacks_item hc item)]
    exact ih _ (hc.applyItem item)

theorem Ingesting.foldl {c : Client} (hc : c.Ingesting) (items : List Item) :
    (items.foldl Client.applyItem c).Ingesting := by
  induction items generalizing c with
  | nil => exact hc
  | cons item rest ih => exact ih (hc.applyItem item)

/-- A FETCH response processed in FETCHING: {lit}`imap_data_fetch_begin` clears the letters,
then each item does what {lit}`applyItem` says. -/
theorem callbacks_fetchResponse {o : Options} {c : Client} (hc : c.Ingesting) (n : UInt32)
    (items : List Item) :
    c.callbacks o (fetchResponse n items) = .ok (items.foldl applyItem { c with flags := [] }) := by
  have h₀ : ({ c with flags := [] }).Ingesting := ⟨hc.state, hc.proxy, hc.closed, hc.fresh⟩
  unfold fetchResponse
  rw [List.cons_append, callbacks_cons]
  simp only [callback, Except.bind]
  rw [callbacks_append_of_ok (callbacks_items o items _ h₀)]
  rfl

/-! ## A session in FETCHING -/

theorem fetchingClient_ingesting : fetchingClient.Ingesting := by decide

/-! ## What a response delivers -/

/-- The same FLAGS item before {lit}`BODY[]` reaches the file name. -/
example :
    (fetchingClient.callbacks sampleOptions
        (fetchResponse 1 [.flags [.seen], .body (some ["BODY1".toList])])).map
      (·.maildir.delivered) = .ok [⟨0, some ['S'], "BODY1".toList⟩] := by
  rfl

/-- A {lit}`BODY[]` whose value is NIL sets {lit}`full_body_`, which only a streamed section
resets: the header section of the next response, which has no empty section, is streamed into
the maildir and delivered as a message. -/
theorem stale_full_body {o : Options} {c : Client} (hc : c.Ingesting) (n₁ n₂ : UInt32)
    (bytes : List Char) :
    (c.callbacks o (fetchResponse n₁ [.body none] ++ fetchResponse n₂ [.headerFields [bytes]])).map
        (·.maildir.delivered) = .ok (c.maildir.delivered ++ [⟨c.maildir.serial, none, bytes⟩]) ∧
      Callback.sectionEmpty ∉ fetchResponse n₂ [.headerFields [bytes]] := by
  have h₀ : ({ c with flags := [] }).Ingesting := ⟨hc.state, hc.proxy, hc.closed, hc.fresh⟩
  have h₁ : c.callbacks o (fetchResponse n₁ [.body none]) = _ :=
    callbacks_fetchResponse hc n₁ [.body none]
  rw [callbacks_append_of_ok h₁, callbacks_fetchResponse (h₀.foldl _)]
  constructor
  · simp [applyItem, streamSection, deliver, Maildir.deliver, flagField, Except.map]
  · simp [fetchResponse, Item.callbacks, Item.sectionCallbacks]

theorem stale_full_body_sample :
    fetchingClient.Ingesting ∧
      ((fetchingClient.callbacks sampleOptions (fetchResponse 1 [.body none] ++
          fetchResponse 2 [.headerFields ["Date: today".toList]])).map (·.maildir.delivered) =
        .ok (fetchingClient.maildir.delivered ++
          [⟨fetchingClient.maildir.serial, none, "Date: today".toList⟩]) ∧
      Callback.sectionEmpty ∉ fetchResponse 2 [.headerFields ["Date: today".toList]]) :=
  ⟨fetchingClient_ingesting, stale_full_body fetchingClient_ingesting 1 2 _⟩

/-! ## The names of the deliveries along every run -/

/-- The dispatch leaves the maildir alone. -/
theorem command_maildir {o : Options} {c c' : Client} (hs : c.state ∈ State.dispatched)
    (h : c.command o = .ok c') : c'.maildir = c.maildir := by
  cases command_dispatch hs h <;> simp

/-- A lexer callback other than a tagged status keeps the maildir's names in order: it opens a
file under a fresh name, writes to one, renames the last one opened, or leaves the maildir
alone. -/
theorem callback_orderly {o : Options} {c c' : Client} {cb : Callback}
    (hcb : ∀ tag s, cb ≠ .taggedStatusEnd tag s) (h : c.callback o cb = .ok c')
    (hm : c.maildir.Orderly) : c'.maildir.Orderly := by
  cases cb with
  | taggedStatusEnd tag s => exact absurd rfl (hcb tag s)
  | bodySectionInner =>
    cases h
    unfold imapBodySectionInner
    split
    · split
      · exact hm.openTmp_createTmpName
      · exact hm
    · exact hm
  | bodySectionEnd =>
    simp only [callback, imapBodySectionEnd] at h
    split at h
    · split at h
      · obtain ⟨m, hmv, rfl⟩ := exceptMap_eq_ok h
        split at hmv <;> exact hm.moveTo hmv
      · cases h
        exact hm
    · cases h
      exact hm
  | write bs =>
    cases h
    unfold push
    split
    · exact hm
    · exact hm.append _ _
  | uid n =>
    cases h
    unfold imapUid
    split <;> exact hm
  | _ => cases h; exact hm

/-- Every step keeps the maildir's names in order. -/
theorem step_orderly {o : Options} {c c' : Client} {e : Event} (g : c.Good)
    (he : c.enabled e = true) (h : c.step o e = .ok c') (hm : c.maildir.Orderly) :
    c'.maildir.Orderly := by
  rcases step_cases g he h with ⟨-, rfl, -, hw, h⟩ | ⟨cb, rfl, ht, h⟩ |
    ⟨rfl, -, -, ⟨-, rfl⟩ | ⟨-, h⟩⟩ | ⟨-, -, q⟩
  · rw [command_maildir (State.succ_mem_dispatched hw) h]
    exact hm
  · exact callback_orderly ht h hm
  · exact hm
  · rw [command_maildir (by simp) h]
    exact hm
  · rw [q.maildir]
    exact hm

theorem Run.orderly {o : Options} {c : Client} {h : List (State × Event)} (r : Run o c h) :
    c.maildir.Orderly := by
  induction r with
  | start => exact Maildir.empty_orderly
  | step r he hs ih => exact step_orderly r.good he hs ih

/-- Along every run, the messages delivered to the maildir carry strictly increasing names: no
two deliveries share a name, so none replaces another. -/
theorem deliveries_increasing {o : Options} {c : Client} {h : List (State × Event)}
    (r : Run o c h) : (c.maildir.delivered.map Delivery.name).Pairwise (· < ·) :=
  r.orderly.increasing

/-- The spec's session up to FETCH, then two FETCH responses with a body each. -/
def twoBodies : List Event :=
  toFetching ++ Event.readData :: (fetchResponse 1 [.uid 3, .body (some ["BODY1".toList])] ++
    fetchResponse 2 [.uid 4, .body (some ["BODY2".toList])]).map Event.callback

theorem deliveries_increasing_twoBodies :
    ∃ h, Run sampleOptions ((new.exec sampleOptions twoBodies).getD new) h ∧
      (((new.exec sampleOptions twoBodies).getD new).maildir.delivered.map Delivery.name).Pairwise
        (· < ·) :=
  have hx : new.exec sampleOptions twoBodies =
      some ((new.exec sampleOptions twoBodies).getD new) := by decide
  let ⟨h, r⟩ := Reachable.exec ⟨[], .start⟩ hx
  ⟨h, r, deliveries_increasing r⟩

end Client

end Imapdl
