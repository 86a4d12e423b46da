import ColumnWire.Proofs.Packet.Chain
import ColumnWire.Proofs.Reply.Hears
import ColumnWire.Proofs.Reply.Message
import ColumnWire.Proofs.Reply.Run
import Mathlib.Logic.Relation

/-!
# The one failure that keeps a connection

A reply is a sequence of packets that its policy goes on after (`Accepts`), up to the packet that
ends it. `run_keeps_iff` says for every policy and every stream when the connection outlives a
failed reply: just when a whole exception within the limit comes next (`ExceptionNext`), and then
the reader stands right behind it. Whatever becomes of the reply, no compressed region stays open.
-/
namespace ColumnWire.Policy

open ServerException (Stands)

variable {σ α : Type} [Source σ]

/-- From one state to the other the body of such a packet has been read, as it is to be judged. The
bodies of a hello and of an exception never are. -/
def Brings (limit : Nat) : ServerPacket → Reader σ × Tray → Reader σ × Tray → Prop
  | .hello, _, _ | .exception, _, _ => False
  | .data, s, s' => readBlock s = .ok () s'
  | kind, s, s' => HearsBody limit kind s.1 s'.1 ∧ s'.2 = s.2

/-- From one state to the other a packet has been read that the policy goes on after. -/
def Accepts (p : Policy α) (limit : Nat) (s s' : Reader σ × Tray) : Prop :=
  ∃ kind rd s₁, Decoder.varint s.1 = .ok kind.code rd ∧ (kind = .data → p.takesData = true) ∧
    Brings limit kind (rd, s.2) s₁ ∧ p.onPacket kind s₁.2 = (.goOn, s'.2) ∧ s'.1 = s₁.1

/-- An exception comes next in the state: its number, and behind that a chain that is not longer
than the limit and ends where the other state stands. -/
def ExceptionNext (limit : Nat) (x : ServerException) (s s' : Reader σ × Tray) : Prop :=
  ∃ rd, Decoder.varint s.1 = .ok ServerPacket.exception.code rd ∧ x.depth ≤ limit ∧
    Stands x.chain rd s'.1 ∧ s'.2 = s.2

variable {p : Policy α} {limit : Nat} {s s' : Reader σ × Tray}

/-! ## One packet -/

omit [Source σ] in
theorem reading_iff {β γ : Type} {d : Decoder σ γ} {s s' : Reader σ × β} {a : γ} :
    Builder.reading d s = .ok a s' ↔ d s.1 = .ok a s'.1 ∧ s'.2 = s.2 := by
  constructor
  · intro h
    obtain ⟨rd, hread, rfl⟩ := Builder.reading_eq_ok h
    exact ⟨hread, rfl⟩
  · rintro ⟨hread, htray⟩
    simp only [Builder.reading, hread, ← htray]

omit [Source σ] in
theorem judge_goOn_iff {kind : ServerPacket} :
    p.judge kind s = .ok none s' ↔ p.onPacket kind s.2 = (.goOn, s'.2) ∧ s'.1 = s.1 := by
  obtain ⟨rd, t⟩ := s
  obtain ⟨rd', t'⟩ := s'
  rcases hv : p.onPacket kind t with ⟨_ | _ | value, tray⟩
  · simp [judge, hv]
  · simp only [judge, hv]
    constructor
    · rintro ⟨⟩
      exact ⟨rfl, rfl⟩
    · rintro ⟨⟨⟩, rfl⟩
      rfl
  · simp [judge, hv]

omit [Source σ] in
/-- A body that is read and then judged. -/
theorem reading_judge_iff {γ : Type} {d : Decoder σ γ} {kind : ServerPacket} {verdict : Option α} :
    ((Builder.reading d >>= fun _ => p.judge kind) s = .ok verdict s') ↔
      ∃ s₁ : Reader σ × Tray, ((∃ a, d s.1 = .ok a s₁.1) ∧ s₁.2 = s.2) ∧
        p.judge kind s₁ = .ok verdict s' := by
  rw [bind_eq_ok]
  constructor
  · rintro ⟨a, s₁, hread, hjudge⟩
    obtain ⟨hread, htray⟩ := reading_iff.mp hread
    exact ⟨s₁, ⟨⟨a, hread⟩, htray⟩, hjudge⟩
  · rintro ⟨s₁, ⟨⟨a, hread⟩, htray⟩, hjudge⟩
    exact ⟨a, s₁, reading_iff.mpr ⟨hread, htray⟩, hjudge⟩

/-- A body gets to its verdict just when it has been read. -/
theorem body_eq_ok_iff {kind : ServerPacket} {verdict : Option α} :
    p.body limit kind s = .ok verdict s' ↔ ∃ s₁, (kind = .data → p.takesData = true) ∧
      Brings limit kind s s₁ ∧ p.judge kind s₁ = .ok verdict s' := by
  cases kind with
  | hello => simp [body, refuse, Brings, throw_ne_ok]
  | exception =>
    simp only [Brings, false_and, and_false, exists_false, iff_false]
    intro h
    obtain ⟨x, s₁, -, hthrow⟩ := bind_eq_ok.mp h
    exact throw_ne_ok hthrow
  | data =>
    by_cases htakes : p.takesData = true
    · rw [body, if_pos htakes, bind_eq_ok]
      constructor
      · rintro ⟨u, s₁, hblock, hjudge⟩
        exact ⟨s₁, fun _ => htakes, hblock, hjudge⟩
      · rintro ⟨s₁, -, hblock, hjudge⟩
        exact ⟨(), s₁, hblock, hjudge⟩
    · rw [body, if_neg htakes]
      simp [htakes, refuse, throw_ne_ok]
  | progress | profileInfo | tableColumns =>
    simp only [reduceCtorEq, false_implies, true_and]
    exact reading_judge_iff
  | pong | endOfStream =>
    simp only [body, reduceCtorEq, false_implies, true_and, Brings, HearsBody]
    constructor
    · intro h
      exact ⟨s, ⟨rfl, rfl⟩, h⟩
    · rintro ⟨s₁, ⟨hreader, htray⟩, hjudge⟩
      rwa [← Prod.ext hreader htray]

/-- The number decides what is done with a packet. -/
theorem packet_eq_of_code {kind : ServerPacket} {rd : Reader σ}
    (hcode : Decoder.varint s.1 = .ok kind.code rd) :
    p.packet limit s = p.body limit kind (rd, s.2) := by
  have hnumber : Builder.reading Decoder.varint s = .ok kind.code (rd, s.2) :=
    reading_iff.mpr ⟨hcode, rfl⟩
  rw [packet, bind_of_eq_ok hnumber, ServerPacket.ofCode?_code]

/-- A packet that a policy goes on after is one that it accepts. -/
theorem packet_goOn_iff : p.packet limit s = .ok none s' ↔ p.Accepts limit s s' := by
  constructor
  · intro h
    obtain ⟨code, s₁, hnumber, hbody⟩ := bind_eq_ok.mp h
    obtain ⟨rd, hcode, rfl⟩ := Builder.reading_eq_ok hnumber
    cases hkind : ServerPacket.ofCode? code with
    | none =>
      rw [hkind] at hbody
      exact absurd hbody throw_ne_ok
    | some kind =>
      rw [hkind] at hbody
      obtain ⟨s₂, htakes, hbrings, hjudge⟩ := body_eq_ok_iff.mp hbody
      obtain ⟨hon, hreader⟩ := judge_goOn_iff.mp hjudge
      rw [ServerPacket.code_of_ofCode? hkind] at hcode
      exact ⟨kind, rd, s₂, hcode, htakes, hbrings, hon, hreader⟩
  · rintro ⟨kind, rd, s₁, hcode, htakes, hbrings, hon, hreader⟩
    rw [packet_eq_of_code hcode, body_eq_ok_iff]
    exact ⟨s₁, htakes, hbrings, judge_goOn_iff.mpr ⟨hon, hreader⟩⟩

/-- What an exception fails with. -/
theorem body_exception_iff {e : Error} :
    (p.body limit .exception s = .error e s' ∧ e.spoilsConnection = false) ↔
      ∃ x, ServerException.read limit s.1 = .ok x s'.1 ∧ s'.2 = s.2 ∧ e = .server x := by
  constructor
  · rintro ⟨h, hkeeps⟩
    rcases bind_eq_error.mp h with hread | ⟨x, s₁, hread, hthrow⟩
    · have hspoils := (Builder.spoils_reading (ServerException.orderly_read limit).spoils).of_error hread
      rw [hspoils] at hkeeps
      cases hkeeps
    · obtain ⟨rfl, rfl⟩ := throw_eq_error.mp hthrow
      obtain ⟨hread, htray⟩ := reading_iff.mp hread
      exact ⟨x, hread, htray, rfl⟩
  · rintro ⟨x, hread, htray, rfl⟩
    have hreading : Builder.reading (ServerException.read limit) s = .ok x s' :=
      reading_iff.mpr ⟨hread, htray⟩
    exact ⟨bind_eq_error.mpr (.inr ⟨x, s', hreading, throw_eq_error.mpr ⟨rfl, rfl⟩⟩), rfl⟩

/-- Of all the ways in which a packet fails, a whole exception alone keeps the connection. -/
theorem packet_keeps_iff {e : Error} :
    (p.packet limit s = .error e s' ∧ e.spoilsConnection = false) ↔
      ∃ x, ExceptionNext limit x s s' ∧ e = .server x := by
  constructor
  · rintro ⟨h, hkeeps⟩
    rcases packet_eq_error h with hspoils | ⟨rd, hcode, -⟩
    · rw [hspoils] at hkeeps
      cases hkeeps
    · rw [packet_eq_of_code hcode] at h
      obtain ⟨x, hread, htray, rfl⟩ := body_exception_iff.mp ⟨h, hkeeps⟩
      obtain ⟨hdepth, hstands⟩ := ServerException.read_eq_ok_iff.mp hread
      exact ⟨x, ⟨rd, hcode, hdepth, hstands, htray⟩, rfl⟩
  · rintro ⟨x, ⟨rd, hcode, hdepth, hstands, htray⟩, rfl⟩
    have hread := ServerException.read_eq_ok_iff.mpr ⟨hdepth, hstands⟩
    rw [packet_eq_of_code hcode]
    exact body_exception_iff.mpr ⟨x, hread, htray, rfl⟩

/-! ## Regions -/

omit [Source σ] in
theorem outside_judge (kind : ServerPacket) :
    Maintains (fun s => s.1.Outside) (p.judge (σ := σ) kind) where
  of_ok {s s' verdict} hs h := by
    unfold judge at h
    rcases hv : p.onPacket kind s.2 with ⟨_ | _ | value, tray⟩ <;> simp only [hv] at h <;> cases h <;>
      exact hs
  of_error {s s' e} hs h := by
    unfold judge at h
    rcases hv : p.onPacket kind s.2 with ⟨_ | _ | value, tray⟩ <;> simp only [hv] at h <;> cases h
    exact hs

theorem outside_readBlock : Maintains (fun s => s.1.Outside) (readBlock (σ := σ)) where
  of_ok {s s' u} hs h := by
    obtain ⟨b, hread, -⟩ := readBlock_eq_ok h
    exact Block.outside_readInto.of_ok (s := (s.1, s.2.block)) hs hread
  of_error {s s' e} hs h := by
    obtain ⟨b, hread, -⟩ := readBlock_eq_error h
    exact Block.outside_readInto.of_error (s := (s.1, s.2.block)) hs hread

omit [Source σ] in
theorem outside_reading_judge {γ : Type} {d : Decoder σ γ} (hd : Orderly d) (kind : ServerPacket) :
    Maintains (fun s => s.1.Outside) (Builder.reading d >>= fun _ => p.judge kind) :=
  (Builder.outside_reading hd.outside).bind fun _ => outside_judge kind

theorem outside_body (limit : Nat) (kind : ServerPacket) :
    Maintains (fun s => s.1.Outside) (p.body (σ := σ) limit kind) := by
  cases kind with
  | hello => exact .ofThrow _
  | exception =>
    exact (Builder.outside_reading (ServerException.orderly_read limit).outside).bind fun _ => .ofThrow _
  | data => exact .ofIte (outside_readBlock.bind fun _ => outside_judge _) (.ofThrow _)
  | progress => exact outside_reading_judge Progress.orderly_read _
  | profileInfo => exact outside_reading_judge ProfileInfo.orderly_read _
  | tableColumns => exact outside_reading_judge TableColumns.orderly_read _
  | pong | endOfStream => exact outside_judge _

theorem outside_packet (limit : Nat) :
    Maintains (fun s => s.1.Outside) (p.packet (σ := σ) limit) := by
  refine (Builder.outside_reading Decoder.orderly_varint.outside).bind fun code => ?_
  cases ServerPacket.ofCode? code with
  | none => exact .ofThrow _
  | some kind => exact outside_body limit kind

theorem outside_run (limit : Nat) : Maintains (fun s => s.1.Outside) (p.run (σ := σ) limit) where
  of_ok {s s' value} hs h := by
    fun_induction run p limit s with
    | case1 => cases h
    | case2 s value s₁ hpacket =>
      cases h
      exact (outside_packet limit).of_ok hs hpacket
    | case3 s s₁ hpacket ih => exact ih ((outside_packet limit).of_ok hs hpacket) h
  of_error {s s' e} hs h := by
    fun_induction run p limit s with
    | case1 s e s₁ hpacket =>
      cases h
      exact (outside_packet limit).of_error hs hpacket
    | case2 => cases h
    | case3 s s₁ hpacket ih => exact ih ((outside_packet limit).of_ok hs hpacket) h

/-! ## Whole replies -/

/-- A reply is what is left of it behind packets that its policy goes on after. -/
theorem run_of_accepts {s₁ : Reader σ × Tray} (h : Relation.ReflTransGen (p.Accepts limit) s s₁) :
    p.run limit s = p.run limit s₁ := by
  induction h with
  | refl => rfl
  | tail _ hstep ih => rw [ih, run_of_goOn (packet_goOn_iff.mpr hstep)]

/-- A failed reply has failed at the packet behind those that its policy goes on after. -/
theorem accepts_of_run {e : Error} (h : p.run limit s = .error e s') :
    ∃ s₁, Relation.ReflTransGen (p.Accepts limit) s s₁ ∧ p.packet limit s₁ = .error e s' := by
  fun_induction run p limit s with
  | case1 s e' s₁ hpacket =>
    cases h
    exact ⟨s, .refl, hpacket⟩
  | case2 => cases h
  | case3 s s₁ hpacket ih =>
    obtain ⟨s₂, hrest, hlast⟩ := ih h
    exact ⟨s₂, .head (packet_goOn_iff.mp hpacket) hrest, hlast⟩

/-- **Only a whole exception keeps the connection.** A reply fails in a way that does not spoil
its connection just when, behind packets that its policy goes on after, an exception comes next whose
chain is not longer than the limit; then it fails with that exception and stands right behind it.
However it ends, a reader that was outside of regions is outside of them. -/
theorem run_keeps_iff (p : Policy α) (limit : Nat) (s : Reader σ × Tray) :
    (∀ e s', (p.run limit s = .error e s' ∧ e.spoilsConnection = false) ↔
      ∃ x s₁, Relation.ReflTransGen (p.Accepts limit) s s₁ ∧ ExceptionNext limit x s₁ s' ∧
        e = .server x) ∧
    (s.1.region = none → ∀ s', (∃ value, p.run limit s = .ok value s') ∨
      (∃ e, p.run limit s = .error e s') → s'.1.region = none) := by
  refine ⟨fun e s' => ⟨?_, ?_⟩, fun hout => ?_⟩
  · rintro ⟨hrun, hkeeps⟩
    obtain ⟨s₁, haccepts, hpacket⟩ := accepts_of_run hrun
    obtain ⟨x, hnext, he⟩ := packet_keeps_iff.mp ⟨hpacket, hkeeps⟩
    exact ⟨x, s₁, haccepts, hnext, he⟩
  · rintro ⟨x, s₁, haccepts, hnext, he⟩
    obtain ⟨hpacket, hkeeps⟩ := packet_keeps_iff.mpr ⟨x, hnext, he⟩
    rw [run_of_accepts haccepts]
    exact ⟨run_of_error hpacket, hkeeps⟩
  · rintro s' (⟨value, hrun⟩ | ⟨e, hrun⟩)
    · exact (outside_run limit).of_ok hout hrun
    · exact (outside_run limit).of_error hout hrun

/-- A count of rows that fails behind a packet of progress; behind the chain stands what belongs to
another reply. -/
theorem run_keeps_iff_counting :
    let x : ServerException := ⟨⟨62, "DB", "at end", ""⟩, [⟨1, "Poco::Exception", "down", "0. trace"⟩]⟩
    let stop : Reader Cursor := ⟨⟨[5], .closed⟩, none, true, none⟩
    let start := stop.before (Message.encodeAll true [.progress {}, .exception x])
    rowCount.run 2 (start, {}) = .error (.server x) (stop, {}) ∧ start.region = none ∧
      stop.region = none := by
  intro x stop start
  have houter : ExceptionRecord.WithinLimits ⟨62, "DB", "at end", ""⟩ :=
    ⟨by decide +kernel, by decide +kernel, by decide +kernel⟩
  have hcause : ExceptionRecord.WithinLimits ⟨1, "Poco::Exception", "down", "0. trace"⟩ :=
    ⟨by decide +kernel, by decide +kernel, by decide +kernel⟩
  have hlimits : x.WithinLimits :=
    List.forall_mem_cons.mpr ⟨houter, List.forall_mem_cons.mpr ⟨hcause, List.forall_mem_nil _⟩⟩
  have hprogress : rowCount.packet 2 (start, {}) =
      .ok none (stop.before ((Message.exception x).encode true), {}) := by
    have hstart : start = (stop.before ((Message.exception x).encode true)).before
        ((Message.progress {}).encode true) := by
      simp [start, Message.encodeAll]
    rw [hstart, packet_progress rowCount 2 {} {} rfl]
    rfl
  have hexception : rowCount.packet 2 (stop.before ((Message.exception x).encode true), {}) =
      .error (.server x) (stop, {}) := by
    rw [packet_exception rowCount 2 {} (by decide) hlimits rfl]
    have htidied : x.tidied = x := by decide +kernel
    rw [htidied]
  obtain ⟨x', hnext, hserver⟩ := packet_keeps_iff.mp ⟨hexception, rfl⟩
  have hkeeps := (run_keeps_iff rowCount 2 (start, {})).1 _ _
    |>.mpr ⟨x', _, .single (packet_goOn_iff.mp hprogress), hnext, hserver⟩
  exact ⟨hkeeps.1, rfl, (run_keeps_iff rowCount 2 (start, {})).2 rfl _ (.inr ⟨_, hkeeps.1⟩)⟩

end ColumnWire.Policy
