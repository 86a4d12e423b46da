import ColumnWire.Proofs.Connection.Life
import ColumnWire.RowStream

/-!
# Dialogues that keep the record

A dialogue is a talk if it says the requests that it is for and hears whole packets, and leads from
one phase of the conversation to another. When it fails, either the failure spoils the connection,
or the last thing heard is a whole exception and the conversation rests. Every request of a client
is a talk, and comes to rest where it succeeds.
-/
namespace ColumnWire

open Event Connection Phase

variable {σ α β : Type} [Source σ] {config : Config} {network : Network σ}

/-! ## Replies -/

/-- A policy goes on behind the parts of an answer only, and what it is done with leads to the phase that
its result stands for. -/
structure Policy.Follows (p : Policy α) (q : α → Phase) : Prop where
  goOn : ∀ {kind tray tray'}, p.onPacket kind tray = (.goOn, tray') → kind ∈ part
  done : ∀ {kind tray tray' a}, p.onPacket kind tray = (.done a, tray') →
    Phase.Step .waiting (.heard kind) (q a)

namespace Policy

theorem follows_sampleBlock : sampleBlock.Follows fun _ => .waiting where
  goOn {kind tray tray'} h := by cases kind <;> first | decide | cases h
  done {kind tray tray' a} h := by cases kind <;> first | exact .goOn (by decide) | cases h

theorem follows_rowCount : rowCount.Follows fun _ => .resting where
  goOn {kind tray tray'} h := by cases kind <;> first | decide | cases h
  done {kind tray tray' a} h := by cases kind <;> first | exact .finish (by decide) | cases h

/-- One packet that acknowledges something may be the end of the answer. -/
theorem follows_onePacket :
    onePacket.Follows fun packet => if packet = .endOfStream then .resting else .waiting where
  goOn {kind tray tray'} h := by cases kind <;> cases h
  done {kind tray tray' a} h := by
    cases kind <;> cases h <;> first | exact .finish (by decide) | exact .goOn (by decide)

theorem follows_pong : pong.Follows fun _ => .resting where
  goOn {kind tray tray'} h := by cases kind <;> cases h
  done {kind tray tray' a} h := by cases kind <;> first | exact .finish (by decide) | cases h

/-- A result ends at the end of the stream and nowhere else. -/
theorem follows_nextBlock :
    nextBlock.Follows fun more => if more then .waiting else .resting where
  goOn {kind tray tray'} h := by cases kind <;> first | decide | cases h
  done {kind tray tray' a} h := by
    cases kind <;> cases h <;> first | exact .finish (by decide) | exact .goOn (by decide)

theorem follows_drain : drain.Follows fun _ => .resting where
  goOn {kind tray tray'} h := by cases kind <;> first | decide | cases h
  done {kind tray tray' a} h := by cases kind <;> first | exact .finish (by decide) | cases h

end Policy

/-- What has happened when a reply ends well. -/
theorem Life.reply_ok {events : List Event} {c c' : Connection σ} {p : Policy α} {q : α → Phase}
    {tray tray' : Tray} {a : α} (hlife : Life config network events c) (hp : p.Follows q)
    (h : c.reply p config.exceptionDepth.toNat tray = (.ok a, tray', c')) :
    ∃ new, requests new = [] ∧ Life config network (events ++ new) c' ∧ Moves .waiting new (q a) ∧
      c'.id = c.id ∧ c'.server = c.server := by
  unfold reply at h
  rcases hrun : p.run config.exceptionDepth.toNat (c.reader, tray) with ⟨a', rd, t⟩ | ⟨e, rd, t⟩
  · simp only [hrun] at h
    cases h
    obtain ⟨ks, kind, hheard, hgoOn, t₁, t₂, hdone⟩ := Policy.run_eq_ok hrun
    have hparts : ∀ k ∈ ks, k ∈ part := by
      intro k hk
      obtain ⟨t₁, t₂, hpart⟩ := hgoOn k hk
      exact hp.goOn hpart
    refine ⟨_, requests_heard _, hlife.hearAll hheard, ?_, rfl, rfl⟩
    rw [List.map_append, List.map_singleton]
    exact (Moves.parts hparts).append (.single (hp.done hdone))
  · simp [hrun] at h

/-- What has happened when a reply fails: it has spoiled the connection or heard a whole exception. -/
theorem Life.reply_error {events : List Event} {c c' : Connection σ} {p : Policy α} {q : α → Phase}
    {tray tray' : Tray} {e : Error} (hlife : Life config network events c) (hp : p.Follows q)
    (h : c.reply p config.exceptionDepth.toNat tray = (.error e, tray', c')) :
    ∃ new, requests new = [] ∧ Past config network (events ++ new) c' ∧ c'.id = c.id ∧
      (e.spoilsConnection = true ∨ Life config network (events ++ new) c' ∧ c'.server = c.server ∧
        Moves .waiting new .resting) := by
  unfold reply at h
  rcases hrun : p.run config.exceptionDepth.toNat (c.reader, tray) with ⟨a', rd, t⟩ | ⟨e', rd, t⟩
  · simp [hrun] at h
  · simp only [hrun] at h
    cases h
    rcases Policy.run_eq_error hrun with hspoils | ⟨ks, hheard, hgoOn⟩
    · refine ⟨[], rfl, ?_, rfl, .inl hspoils⟩
      rw [List.append_nil]
      exact ⟨c, hlife, rfl⟩
    · have hlife' := hlife.hearAll hheard
      have hparts : ∀ k ∈ ks, k ∈ part := by
        intro k hk
        obtain ⟨t₁, t₂, hpart⟩ := hgoOn k hk
        exact hp.goOn hpart
      refine ⟨_, requests_heard _, hlife'.past, rfl, .inr ⟨hlife', rfl, ?_⟩⟩
      rw [List.map_append, List.map_singleton]
      exact (Moves.parts hparts).append (.single (.finish (by decide)))

/-! ## Talks -/

variable (config network) in
/-- On a connection with a life, the dialogue says `asked`, and what happens in it leads from the phase
`p` to the one that its result stands for. In a failure it says no more than that, and it has spoiled
the connection or come to rest. -/
structure Talk (asked : List Bytes) (p : Phase) (q : α → Phase) (d : Dialogue σ α) : Prop where
  of_ok : ∀ {events : List Event} {c c' : Connection σ} {a : α}, Life config network events c →
    d c = .ok a c' → ∃ new, requests new = asked ∧ Life config network (events ++ new) c' ∧
      Moves p new (q a) ∧ c'.id = c.id ∧ c'.server = c.server
  of_error : ∀ {events : List Event} {c c' : Connection σ} {e : Error}, Life config network events c →
    d c = .error e c' → ∃ new, (requests new).Sublist asked ∧ Past config network (events ++ new) c' ∧
      c'.id = c.id ∧ (e.spoilsConnection = true ∨
        Life config network (events ++ new) c' ∧ c'.server = c.server ∧ Moves p new .resting)

namespace Talk

variable {asked asked₁ asked₂ : List Bytes} {p r : Phase} {q : α → Phase}

/-- To look at a connection is no event. -/
protected theorem look (f : Connection σ → α) :
    Talk config network [] p (fun _ => p) (fun c => .ok (f c) c) where
  of_ok {events c c' a} hlife h := by
    cases h
    refine ⟨[], rfl, ?_, .nil, rfl, rfl⟩
    rwa [List.append_nil]
  of_error _ h := by cases h

protected theorem pure (a : α) : Talk config network [] p (fun _ => p) (pure a : Dialogue σ α) :=
  Talk.look fun _ => a

/-- One dialogue after another: the second goes on from the phase to which the first has led. -/
protected theorem bind {x : Dialogue σ α} {f : α → Dialogue σ β} {q' : β → Phase}
    (hx : Talk config network asked₁ p q x) (hf : ∀ a, Talk config network asked₂ (q a) q' (f a)) :
    Talk config network (asked₁ ++ asked₂) p q' (x >>= f) where
  of_ok {events c c' b} hlife h := by
    obtain ⟨a, c₁, hx', hf'⟩ := bind_eq_ok.mp h
    obtain ⟨first, hasked₁, hlife₁, hmoves₁, hid₁, hserver₁⟩ := hx.of_ok hlife hx'
    obtain ⟨second, hasked₂, hlife₂, hmoves₂, hid₂, hserver₂⟩ := (hf a).of_ok hlife₁ hf'
    refine ⟨first ++ second, ?_, ?_, hmoves₁.append hmoves₂, ?_, ?_⟩
    · rw [requests_append, hasked₁, hasked₂]
    · rwa [← List.append_assoc]
    · rw [hid₂, hid₁]
    · rw [hserver₂, hserver₁]
  of_error {events c c' e} hlife h := by
    rcases bind_eq_error.mp h with hx' | ⟨a, c₁, hx', hf'⟩
    · obtain ⟨new, hasked, hpast⟩ := hx.of_error hlife hx'
      exact ⟨new, hasked.trans (List.sublist_append_left _ _), hpast⟩
    · obtain ⟨first, hasked₁, hlife₁, hmoves₁, hid₁, hserver₁⟩ := hx.of_ok hlife hx'
      obtain ⟨second, hasked₂, hpast, hid₂, hend⟩ := (hf a).of_error hlife₁ hf'
      refine ⟨first ++ second, ?_, ?_, ?_, ?_⟩
      · rw [requests_append, hasked₁]
        exact (List.Sublist.refl _).append hasked₂
      · rwa [← List.append_assoc]
      · rw [hid₂, hid₁]
      · rcases hend with hspoils | ⟨hlife₂, hserver₂, hmoves₂⟩
        · exact .inl hspoils
        · refine .inr ⟨?_, ?_, hmoves₁.append hmoves₂⟩
          · rwa [← List.append_assoc]
          · rw [hserver₂, hserver₁]

/-- A result changes nothing about where a dialogue leads. -/
theorem map {x : Dialogue σ α} (hx : Talk config network asked p (fun _ => r) x) (g : α → β) :
    Talk config network asked p (fun _ => r) (do return g (← x)) := by
  have hbind := hx.bind fun a => Talk.pure (g a)
  rwa [List.append_nil] at hbind

/-! ## Saying and hearing -/

theorem say {bs : Bytes} (hstep : Phase.Step p (.said bs) r) :
    Talk config network [bs] p (fun _ => r) (say (σ := σ) bs) where
  of_ok {events c c' u} hlife h := by
    obtain ⟨-, -, -, -, hid, hserver⟩ := say_eq_ok hlife.writer_empty h
    exact ⟨[.said bs], rfl, hlife.said h, .single hstep, hid, hserver⟩
  of_error {events c c' e} hlife h := by
    obtain ⟨hspoils, hsent, hid⟩ := say_eq_error h
    refine ⟨[], List.nil_sublist _, ?_, hid, .inl hspoils⟩
    rw [List.append_nil]
    exact ⟨c, hlife, hsent⟩

/-- An answer leads to where its policy is done. -/
theorem answer {policy : Policy α} (hp : policy.Follows q) : Talk config network [] .waiting q
    (answer (σ := σ) policy config.exceptionDepth.toNat) where
  of_ok {events c c' a} hlife h := by
    unfold Connection.answer at h
    rcases hreply : c.reply policy config.exceptionDepth.toNat {} with ⟨a' | e, tray, c₁⟩
    · simp [hreply] at h
    · simp only [hreply] at h
      cases h
      exact hlife.reply_ok hp hreply
  of_error {events c c' e} hlife h := by
    unfold Connection.answer at h
    rcases hreply : c.reply policy config.exceptionDepth.toNat {} with ⟨e' | a, tray, c₁⟩
    · simp only [hreply] at h
      cases h
      obtain ⟨new, hasked, hpast, hid, hend⟩ := hlife.reply_error hp hreply
      exact ⟨new, hasked ▸ List.nil_sublist _, hpast, hid, hend⟩
    · simp [hreply] at h

end Talk

/-! ## The dialogues of a client -/

namespace Client

/-- A statement as it is sent: the query, and the empty block that ends its data. -/
def statement (sql : String) (c : Client σ) : Bytes :=
  Request.query c.config.compression c.hostname c.config.settings sql ++
    Request.data c.config.compression none

/-- The rows of an insertion as they are sent: the block, and the empty block that ends the data. -/
def rowData (block : Block) (c : Client σ) : Bytes :=
  Request.data c.config.compression (some block) ++ Request.data c.config.compression none

omit [Source σ] in
/-- A statement asks for something. -/
theorem step_statement (sql : String) (c : Client σ) :
    Phase.Step .resting (.said (c.statement sql)) .waiting := by
  refine .ask .query (by decide) ?_
  simp only [statement, Request.query, List.append_assoc]
  exact List.prefix_append _ _

omit [Source σ] in
/-- Rows are data of a statement. -/
theorem step_rowData (block : Block) (c : Client σ) :
    Phase.Step .waiting (.said (c.rowData block)) .waiting := by
  refine .add .data (by decide) ?_
  simp only [rowData, Request.data, Request.dataBy, List.append_assoc]
  exact List.prefix_append _ _

omit [Source σ] in
/-- What is written in two parts is written at once. -/
theorem write_write (first second : Bytes) (rest : Dialogue σ α) :
    (do write first; write second; rest) = (do write (first ++ second); rest) := by
  funext c
  have hbytes : (c.writer.append first).append second = c.writer.append (first ++ second) := by
    simp only [Writer.append, List.append_assoc]
  exact congrArg (fun w => rest { c with writer := w }) hbytes

omit [Source σ] in
/-- Writing and handing over is saying. -/
theorem write_flush (bs : Bytes) (rest : Dialogue σ α) :
    (do write bs; flush; rest) = (do say bs; rest) := (bind_assoc ..).symm

variable (network) in
theorem talk_sendQuery (sql : String) (c : Client σ) :
    Talk c.config network [c.statement sql] .resting (fun _ => .waiting) (c.sendQuery sql) := by
  have hsay : c.sendQuery sql = say (c.statement sql) := write_write _ _ flush
  rw [hsay]
  exact Talk.say (step_statement sql c)

variable (network) in
theorem talk_pingOn (c : Client σ) :
    Talk c.config network [Request.ping] .resting (fun _ => .resting) c.pingOn := by
  rw [pingOn, write_flush]
  have hstep : Phase.Step .resting (.said Request.ping) .waiting :=
    .ask .ping (by decide) List.prefix_rfl
  exact (Talk.say hstep).bind fun _ => Talk.answer Policy.follows_pong

variable (network) in
theorem talk_execOn (sql : String) (c : Client σ) :
    Talk c.config network [c.statement sql] .resting (fun _ => .resting) (c.execOn sql) := by
  have hcount : Talk c.config network [] .waiting (fun _ => .resting)
      (Connection.answer (σ := σ) Policy.rowCount c.exceptionLimit) :=
    Talk.answer Policy.follows_rowCount
  exact (talk_sendQuery network sql c).bind fun _ => hcount.map fun rows => rows.getD 0

variable (network) in
/-- What follows the acknowledgement of an insertion: nothing more if it was the end of the stream. -/
theorem talk_acknowledged (rows : Nat) (packet : ServerPacket) (c : Client σ) :
    Talk c.config network [] (if packet = .endOfStream then .resting else .waiting)
      (fun _ => .resting)
      (do
        if packet ≠ .endOfStream then
          let _ ← Connection.answer (σ := σ) Policy.rowCount c.exceptionLimit
        return rows) := by
  by_cases hpacket : packet = .endOfStream
  · simp only [hpacket, ne_eq, not_true_eq_false, if_false, if_true]
    exact Talk.pure rows
  · have hcount : Talk c.config network [] .waiting (fun _ => .resting)
        (Connection.answer (σ := σ) Policy.rowCount c.exceptionLimit) :=
      Talk.answer Policy.follows_rowCount
    simp only [ne_eq, hpacket, not_false_eq_true, if_true, if_false]
    exact hcount.map fun _ => rows

variable (network) in
/-- An insertion says its statement and its rows, and rests behind the acknowledgement or behind
what follows it. -/
theorem talk_insertOn (sql : String) (block : Block) (c : Client σ) :
    Talk c.config network [c.statement sql, c.rowData block] .resting (fun _ => .resting)
      (c.insertOn sql block) := by
  have hend : Talk c.config network [] .waiting (fun _ => .resting) (do
      let packet ← Connection.answer (σ := σ) Policy.onePacket c.exceptionLimit
      if packet ≠ .endOfStream then
        let _ ← Connection.answer (σ := σ) Policy.rowCount c.exceptionLimit
      return block.rows) :=
    (Talk.answer Policy.follows_onePacket).bind fun packet =>
      talk_acknowledged network block.rows packet c
  have hrows : Talk c.config network [c.rowData block] .waiting (fun _ => .resting) (do
      say (c.rowData block)
      let packet ← Connection.answer (σ := σ) Policy.onePacket c.exceptionLimit
      if packet ≠ .endOfStream then
        let _ ← Connection.answer (σ := σ) Policy.rowCount c.exceptionLimit
      return block.rows) :=
    (Talk.say (step_rowData block c)).bind fun _ => hend
  rw [← write_flush, rowData, ← write_write] at hrows
  exact (talk_sendQuery network sql c).bind fun _ =>
    (Talk.answer Policy.follows_sampleBlock).bind fun _ => hrows

variable (network) in
theorem talk_cancel (c : Client σ) :
    Talk c.config network [Request.cancel] .waiting (fun _ => .resting)
      (RowStream.cancel (σ := σ) c.exceptionLimit) := by
  rw [RowStream.cancel, write_flush]
  have hstep : Phase.Step .waiting (.said Request.cancel) .waiting :=
    .add .cancel (by decide) List.prefix_rfl
  exact (Talk.say hstep).bind fun _ => Talk.answer Policy.follows_drain

end Client

end ColumnWire
