import ColumnWire.Connection
import ColumnWire.Proofs.Block.Anew
import ColumnWire.Proofs.Reply.Hears
import ColumnWire.Proofs.Reply.Run

/-!
# What stands next in the answer to a query

`look` reads one packet of the answer to a query, and tells what it is and where it ends. Several
policies read such answers. They differ in what they make of a block and of the end of the stream,
and in all else each of them does what `look` says (`packet_eq`), whatever is on its tray.
-/
namespace ColumnWire

/-- What stands next in an answer, and the position behind it. -/
inductive Sight (σ : Type) where
  /-- A packet that tells nothing about the result. -/
  | passed (rd : Reader σ)
  | block (b : Block) (rd : Reader σ)
  | ended (rd : Reader σ)
  /-- An exception, whole. -/
  | exception (e : ServerException) (rd : Reader σ)
  /-- The number of a packet that has no place in an answer. -/
  | refused (code : UInt64) (rd : Reader σ)
  /-- Nothing whole. -/
  | broken (e : Error) (rd : Reader σ)

/-- A policy that reads the answers to queries. -/
structure Policy.ForAnswers {α : Type} (p : Policy α) : Prop where
  takesData : p.takesData = true
  progress : ∀ t, p.onPacket .progress t = (.goOn, t)
  profileInfo : ∀ t, p.onPacket .profileInfo t = (.goOn, t)
  tableColumns : ∀ t, p.onPacket .tableColumns t = (.goOn, t)
  pong : ∀ t, p.onPacket .pong t = (.refused, t)

namespace Policy

theorem forAnswers_rowCount : rowCount.ForAnswers := by constructor <;> intros <;> rfl

theorem forAnswers_nextBlock : nextBlock.ForAnswers := by constructor <;> intros <;> rfl

theorem forAnswers_drain : drain.ForAnswers := by constructor <;> intros <;> rfl

end Policy

namespace Sight

variable {σ α : Type} [Source σ]

/-- What comes of reading a packet that tells nothing about the result. -/
def pass {ε : Type} : EStateM.Result Error (Reader σ) ε → Sight σ
  | .ok _ rd => .passed rd
  | .error e rd => .broken e rd

/-- What the body of a packet amounts to. -/
def ofBody (limit : Nat) (kind : ServerPacket) (rd : Reader σ) : Sight σ :=
  match kind with
  | .hello | .pong => .refused kind.code rd
  | .exception =>
    match ServerException.read limit rd with
    | .ok e rd => .exception e rd
    | .error e rd => .broken e rd
  | .data =>
    match Block.readInto (rd, .empty) with
    | .ok () (rd, b) => .block b rd
    | .error e (rd, _) => .broken e rd
  | .progress => pass (Progress.read rd)
  | .profileInfo => pass (ProfileInfo.read rd)
  | .tableColumns => pass (TableColumns.read rd)
  | .endOfStream => .ended rd

/-- What stands at a position of an answer. -/
def look (limit : Nat) (rd : Reader σ) : Sight σ :=
  match Decoder.varint rd with
  | .error e rd => .broken e rd
  | .ok code rd =>
    match ServerPacket.ofCode? code with
    | none => .refused code rd
    | some kind => ofBody limit kind rd

/-- Where the answer goes on. -/
def rest? : Sight σ → Option (Reader σ)
  | .passed rd | .block _ rd => some rd
  | _ => none

/-- Where the answer is over: behind the end of the stream, or behind an exception. -/
def end? : Sight σ → Option (Reader σ)
  | .ended rd | .exception _ rd => some rd
  | _ => none

omit [Source σ] in
/-- An answer that is over does not go on. -/
theorem rest?_of_end? {sight : Sight σ} {rd : Reader σ} (h : sight.end? = some rd) :
    sight.rest? = none := by
  cases sight with
  | ended rd' | exception e rd' => rfl
  | _ => cases h

/-- How a reply fails here, and where; the failure may name what was being read. -/
def failure? (context : String) : Sight σ → Option (Error × Reader σ)
  | .exception e rd => some (.server e, rd)
  | .refused code rd => some (.unexpectedPacket context code, rd)
  | .broken e rd => some (e, rd)
  | _ => none

omit [Source σ] in
/-- An answer that fails does not go on. -/
theorem rest?_of_failure? {sight : Sight σ} {context : String} {failure : Error × Reader σ}
    (h : sight.failure? context = some failure) : sight.rest? = none := by
  cases sight with
  | exception e rd | refused code rd | broken e rd => rfl
  | _ => cases h

omit [Source σ] in
/-- An answer goes on, ends, or fails. -/
theorem cases_failure (context : String) (sight : Sight σ) :
    (∃ rd, sight = .passed rd) ∨ (∃ b rd, sight = .block b rd) ∨ (∃ rd, sight = .ended rd) ∨
      ∃ e rd, sight.failure? context = some (e, rd) := by
  cases sight with
  | passed rd => exact .inl ⟨rd, rfl⟩
  | block b rd => exact .inr (.inl ⟨b, rd, rfl⟩)
  | ended rd => exact .inr (.inr (.inl ⟨rd, rfl⟩))
  | exception e rd | refused code rd | broken e rd => exact .inr (.inr (.inr ⟨_, rd, rfl⟩))

/-- What a policy makes of it: a result of its own, or of the packet's judgement. -/
def Met (p : Policy α) (t : Tray) :
    Sight σ → EStateM.Result Error (Reader σ × Tray) (Option α) → Prop
  | .passed rd, r => r = .ok none (rd, t)
  | .block b rd, r => r = p.judge .data (rd, { t with block := b })
  | .ended rd, r => r = p.judge .endOfStream (rd, t)
  | .exception e rd, r => r = .error (.server e) (rd, t)
  | .refused code rd, r => r = .error (.unexpectedPacket p.context code) (rd, t)
  | .broken e rd, r => ∃ t', r = .error e (rd, t')

omit [Source σ] in
/-- Where an answer fails, so does what a policy makes of it. -/
theorem Met.of_failure {p : Policy α} {t : Tray} {sight : Sight σ}
    {r : EStateM.Result Error (Reader σ × Tray) (Option α)} {e : Error} {rd : Reader σ}
    (h : sight.Met p t r) (hfail : sight.failure? p.context = some (e, rd)) :
    ∃ t', r = .error e (rd, t') := by
  cases sight with
  | exception e' rd' | refused code rd' =>
    cases hfail
    exact ⟨t, h⟩
  | broken e' rd' =>
    cases hfail
    exact h
  | _ => cases hfail

end Sight

namespace Policy

variable {σ α : Type} [Source σ] {p : Policy α}

theorem readBlock_of_ok {rd rd' : Reader σ} {b b' : Block}
    (h : Block.readInto (rd, b) = .ok () (rd', b')) (t : Tray) :
    readBlock (rd, t) = .ok () (rd', { t with block := b' }) := by
  simp only [readBlock, Block.overwrites_readInto.of_ok h t.block]

theorem readBlock_of_error {rd rd' : Reader σ} {b b' : Block} {e : Error}
    (h : Block.readInto (rd, b) = .error e (rd', b')) (t : Tray) :
    ∃ t', readBlock (rd, t) = .error e (rd', t') := by
  obtain ⟨left, hread⟩ := Block.overwrites_readInto.of_error h t.block
  exact ⟨{ t with block := left }, by simp only [readBlock, hread]⟩

omit [Source σ] in
/-- A packet that tells nothing about the result is passed, if it can be read. -/
theorem met_pass {γ : Type} {kind : ServerPacket} (d : Decoder σ γ) (rd : Reader σ) (t : Tray)
    (hp : p.onPacket kind t = (.goOn, t)) :
    (Sight.pass (d rd)).Met p t ((Builder.reading d >>= fun _ => p.judge kind) (rd, t)) := by
  cases hd : d rd with
  | ok a rd' =>
    rw [bind_of_eq_ok (Builder.reading_of_ok hd t)]
    simp only [Sight.pass, Sight.Met, judge, hp]
  | error e rd' => exact ⟨t, bind_eq_error.mpr (.inl (Builder.reading_of_error hd t))⟩

theorem body_eq (hp : p.ForAnswers) (limit : Nat) (kind : ServerPacket) (rd : Reader σ) (t : Tray) :
    (Sight.ofBody limit kind rd).Met p t (p.body limit kind (rd, t)) := by
  cases kind with
  | hello => rfl
  | pong => simp only [Sight.ofBody, Sight.Met, body, judge, hp.pong]
  | endOfStream => rfl
  | progress => exact met_pass Progress.read rd t (hp.progress t)
  | profileInfo => exact met_pass ProfileInfo.read rd t (hp.profileInfo t)
  | tableColumns => exact met_pass TableColumns.read rd t (hp.tableColumns t)
  | exception =>
    unfold Sight.ofBody body
    cases hread : ServerException.read limit rd with
    | ok e rd' =>
      simp only [Sight.Met]
      exact bind_of_eq_ok (Builder.reading_of_ok hread t)
    | error e rd' => exact ⟨t, bind_eq_error.mpr (.inl (Builder.reading_of_error hread t))⟩
  | data =>
    unfold Sight.ofBody body
    rw [if_pos hp.takesData]
    rcases hread : Block.readInto (rd, .empty) with ⟨u, rd', b⟩ | ⟨e, rd', b⟩
    · exact bind_of_eq_ok (readBlock_of_ok hread t)
    · obtain ⟨t', hread'⟩ := readBlock_of_error hread t
      exact ⟨t', bind_eq_error.mpr (.inl hread')⟩

/-- **A policy that reads answers goes by what stands next**, whatever is on its tray. -/
theorem packet_eq (hp : p.ForAnswers) (limit : Nat) (rd : Reader σ) (t : Tray) :
    (Sight.look limit rd).Met p t (p.packet limit (rd, t)) := by
  unfold Sight.look packet
  cases hcode : Decoder.varint rd with
  | error e rd' => exact ⟨t, bind_eq_error.mpr (.inl (Builder.reading_of_error hcode t))⟩
  | ok code rd' =>
    rw [bind_of_eq_ok (Builder.reading_of_ok hcode t)]
    cases hkind : ServerPacket.ofCode? code with
    | none =>
      simp only [hkind, Sight.Met]
      rfl
    | some kind =>
      simp only [hkind]
      exact body_eq hp limit kind rd' t

end Policy

namespace Sight

variable {σ : Type} [Source σ] {limit : Nat} {rd rd' : Reader σ}

/-! ## What is seen is there -/

/-- A packet that is seen stands there as a whole, and where nothing whole stands the connection is
spoilt. -/
def Stands (limit : Nat) (rd : Reader σ) : Sight σ → Prop
  | .passed rd' =>
    ∃ kind ∈ [ServerPacket.progress, .profileInfo, .tableColumns], Hears limit kind rd rd'
  | .block _ rd' => Hears limit .data rd rd'
  | .ended rd' => Hears limit .endOfStream rd rd'
  | .exception _ rd' => Hears limit .exception rd rd'
  | .refused _ _ => True
  | .broken e _ => e.spoilsConnection = true

theorem stands_ofBody {kind : ServerPacket} {rd₁ : Reader σ}
    (hcode : Decoder.varint rd = .ok kind.code rd₁) :
    (ofBody limit kind rd₁).Stands limit rd := by
  unfold ofBody
  cases kind with
  | hello | pong => trivial
  | endOfStream => exact ⟨rd₁, hcode, rfl⟩
  | exception =>
    cases hread : ServerException.read limit rd₁ with
    | ok e rd' => exact ⟨rd₁, hcode, e, hread⟩
    | error e rd' => exact (ServerException.orderly_read limit).spoils.of_error hread
  | data =>
    rcases hread : Block.readInto (rd₁, .empty) with ⟨u, rd', b⟩ | ⟨e, rd', b⟩
    · exact ⟨rd₁, hcode, .empty, b, hread⟩
    · exact Block.spoils_readInto.of_error hread
  | progress =>
    cases hread : Progress.read rd₁ with
    | ok p rd' => exact ⟨.progress, by simp, rd₁, hcode, p, hread⟩
    | error e rd' => exact Progress.orderly_read.spoils.of_error hread
  | profileInfo =>
    cases hread : ProfileInfo.read rd₁ with
    | ok p rd' => exact ⟨.profileInfo, by simp, rd₁, hcode, p, hread⟩
    | error e rd' => exact ProfileInfo.orderly_read.spoils.of_error hread
  | tableColumns =>
    cases hread : TableColumns.read rd₁ with
    | ok p rd' => exact ⟨.tableColumns, by simp, rd₁, hcode, p, hread⟩
    | error e rd' => exact TableColumns.orderly_read.spoils.of_error hread

theorem stands_look (limit : Nat) (rd : Reader σ) : (look limit rd).Stands limit rd := by
  unfold look
  cases hcode : Decoder.varint rd with
  | error e rd₁ => exact Decoder.orderly_varint.spoils.of_error hcode
  | ok code rd₁ =>
    cases hkind : ServerPacket.ofCode? code with
    | none =>
      simp only [hkind]
      trivial
    | some kind =>
      rw [ServerPacket.code_of_ofCode? hkind] at hcode
      simp only [hkind]
      exact stands_ofBody hcode

/-- Whatever the answer goes on behind takes at least one byte. -/
theorem left_rest? (h : (look limit rd).rest? = some rd') : rd'.left < rd.left := by
  have hstands := stands_look limit rd
  generalize look limit rd = sight at h hstands
  cases sight with
  | passed rd₁ =>
    cases h
    obtain ⟨kind, -, hheard⟩ := hstands
    exact hheard.left
  | block b rd₁ =>
    cases h
    exact Hears.left hstands
  | _ => cases h

/-- Whatever ends the answer takes at least one byte. -/
theorem left_end? (h : (look limit rd).end? = some rd') : rd'.left < rd.left := by
  have hstands := stands_look limit rd
  generalize look limit rd = sight at h hstands
  cases sight with
  | ended rd₁ | exception e rd₁ =>
    cases h
    exact Hears.left hstands
  | _ => cases h

/-- The failure of a reply spoils its connection unless it has heard a whole exception. -/
theorem spoils_failure {context : String} {e : Error}
    (h : (look limit rd).failure? context = some (e, rd')) :
    e.spoilsConnection = true ∧ (look limit rd).end? = none ∨
      e.spoilsConnection = false ∧ (look limit rd).end? = some rd' := by
  have hstands := stands_look limit rd
  generalize look limit rd = sight at h hstands ⊢
  cases sight with
  | exception e' rd₁ =>
    cases h
    exact .inr ⟨rfl, rfl⟩
  | refused code rd₁ =>
    cases h
    exact .inl ⟨rfl, rfl⟩
  | broken e' rd₁ =>
    cases h
    exact .inl ⟨hstands, rfl⟩
  | _ => cases h

end Sight

namespace Connection

variable {σ α : Type} [Source σ] {p : Policy α} {limit : Nat} {conn : Connection σ} {rd : Reader σ}

/-! ## Replies -/

theorem reply_of_goOn {t t' : Tray} (h : p.packet limit (conn.reader, t) = .ok none (rd, t')) :
    conn.reply p limit t = { conn with reader := rd }.reply p limit t' := by
  simp only [reply, Policy.run_of_goOn h]

theorem reply_of_done {t t' : Tray} {value : α}
    (h : p.packet limit (conn.reader, t) = .ok (some value) (rd, t')) :
    conn.reply p limit t = (.ok value, t', { conn with reader := rd }) := by
  simp only [reply, Policy.run_of_done h]

theorem reply_of_error {t t' : Tray} {e : Error}
    (h : p.packet limit (conn.reader, t) = .error e (rd, t')) :
    conn.reply p limit t = (.error e, t', { conn with reader := rd }) := by
  simp only [reply, Policy.run_of_error h]

/-- A reply fails at whatever cannot be part of an answer. -/
theorem reply_of_failure {e : Error} (hp : p.ForAnswers)
    (h : (Sight.look limit conn.reader).failure? p.context = some (e, rd)) (t : Tray) :
    ∃ t', conn.reply p limit t = (.error e, t', { conn with reader := rd }) := by
  obtain ⟨t', hpacket⟩ := (Policy.packet_eq hp limit conn.reader t).of_failure h
  exact ⟨t', reply_of_error hpacket⟩

/-- Packets that tell nothing about the result may as well not be there. -/
theorem reply_passed (hp : p.ForAnswers) (hlook : Sight.look limit conn.reader = .passed rd)
    (t : Tray) : conn.reply p limit t = { conn with reader := rd }.reply p limit t := by
  have hpacket := Policy.packet_eq hp limit conn.reader t
  rw [hlook] at hpacket
  exact reply_of_goOn hpacket

theorem reply_rowCount_block {b : Block} (h : Sight.look limit conn.reader = .block b rd)
    (t : Tray) :
    conn.reply Policy.rowCount limit t =
      { conn with reader := rd }.reply Policy.rowCount limit
        ⟨b, some (t.counted.getD 0 + b.rows)⟩ := by
  have hpacket := Policy.packet_eq Policy.forAnswers_rowCount limit conn.reader t
  rw [h] at hpacket
  exact reply_of_goOn hpacket

theorem reply_rowCount_ended (h : Sight.look limit conn.reader = .ended rd) (t : Tray) :
    conn.reply Policy.rowCount limit t =
      (.ok t.counted, { t with counted := none }, { conn with reader := rd }) := by
  have hpacket := Policy.packet_eq Policy.forAnswers_rowCount limit conn.reader t
  rw [h] at hpacket
  exact reply_of_done hpacket

theorem reply_nextBlock_block {b : Block} (h : Sight.look limit conn.reader = .block b rd)
    (t : Tray) :
    conn.reply Policy.nextBlock limit t =
      (.ok true, { t with block := b }, { conn with reader := rd }) := by
  have hpacket := Policy.packet_eq Policy.forAnswers_nextBlock limit conn.reader t
  rw [h] at hpacket
  exact reply_of_done hpacket

theorem reply_nextBlock_ended (h : Sight.look limit conn.reader = .ended rd) (t : Tray) :
    conn.reply Policy.nextBlock limit t = (.ok false, t, { conn with reader := rd }) := by
  have hpacket := Policy.packet_eq Policy.forAnswers_nextBlock limit conn.reader t
  rw [h] at hpacket
  exact reply_of_done hpacket

end Connection

end ColumnWire
