import ColumnWire.Proofs.Block.Anew
import ColumnWire.Reply

/-!
# What has been heard when a reply ends

`Hears limit kind rd rd'` says that between two positions of a stream stands one whole packet,
body included. A reply that ends well has heard packets back to back, the last of which is one
that its policy is done with. A reply that fails has either spoiled the connection, or the last
packet that it has heard is a whole exception (`run_error`): there is no third way.
-/
namespace ColumnWire

/-! ## Reading a body -/

section Bodies

variable {σ : Type} [Source σ]

omit [Source σ] in
theorem ServerInfo.orderly_readFrom {α : Type} {first revision : UInt64} {field : Decoder σ α}
    (hfield : Orderly field) : Orderly (readFrom first revision field) :=
  .ofIte (hfield.bind fun _ => .ofPure _) (.ofPure _)

theorem ServerInfo.orderly_read : Orderly (read (σ := σ)) := by
  refine Decoder.orderly_text.bind fun _ => ?_
  refine Decoder.orderly_varint.bind fun _ => ?_
  refine Decoder.orderly_varint.bind fun _ => ?_
  refine Decoder.orderly_varint.bind fun _ => ?_
  refine (orderly_readFrom Decoder.orderly_text).bind fun _ => ?_
  refine (orderly_readFrom Decoder.orderly_text).bind fun _ => ?_
  exact (orderly_readFrom Decoder.orderly_varint).bind fun _ => .ofPure _

theorem Progress.orderly_read : Orderly (read (σ := σ)) := by
  refine Decoder.orderly_varint.bind fun _ => ?_
  refine Decoder.orderly_varint.bind fun _ => ?_
  refine Decoder.orderly_varint.bind fun _ => ?_
  refine Decoder.orderly_varint.bind fun _ => ?_
  exact Decoder.orderly_varint.bind fun _ => .ofPure _

theorem ProfileInfo.orderly_read : Orderly (read (σ := σ)) := by
  refine Decoder.orderly_varint.bind fun _ => ?_
  refine Decoder.orderly_varint.bind fun _ => ?_
  refine Decoder.orderly_varint.bind fun _ => ?_
  refine Decoder.orderly_bool.bind fun _ => ?_
  refine Decoder.orderly_varint.bind fun _ => ?_
  exact Decoder.orderly_bool.bind fun _ => .ofPure _

theorem TableColumns.orderly_read : Orderly (read (σ := σ)) :=
  Decoder.orderly_text.bind fun _ => Decoder.orderly_text.bind fun _ => .ofPure _

theorem ServerException.orderly_readFrom (limit room : Nat) (outer : List ExceptionRecord) :
    Orderly (readFrom (σ := σ) limit room outer) := by
  have hrecord : Orderly (readRecord (σ := σ)) := by
    refine Decoder.orderly_int32.bind fun _ => ?_
    refine Decoder.orderly_text.bind fun _ => ?_
    refine Decoder.orderly_text.bind fun _ => ?_
    refine Decoder.orderly_text.bind fun _ => ?_
    exact Decoder.orderly_bool.bind fun _ => .ofPure _
  induction room generalizing outer with
  | zero => exact .ofThrow rfl
  | succ room ih => exact hrecord.bind fun (r, more) => .ofIte (ih _) (.ofPure _)

theorem ServerException.orderly_read (limit : Nat) : Orderly (read (σ := σ) limit) :=
  orderly_readFrom limit limit []

theorem ColumnData.spoils_read (type : ColumnType) (rows : Nat) :
    Spoils (read (σ := σ) type rows) := by
  refine Builder.spoils_fresh ?_
  cases type with
  | scalar kind =>
    refine (Builder.spoils_reading ?_).bind fun _ => Builder.spoils_put _
    exact .ofIte (.ofThrow rfl) (Decoder.orderly_bytes _).spoils
  | string => exact Builder.spoils_within (Builder.spoils_pushes Decoder.orderly_text.spoils rows)
  | fixedString width =>
    exact Builder.spoils_within (Builder.spoils_pushes (Decoder.orderly_bytes width).spoils rows)

namespace Block

theorem spoils_skipInfo : Spoils (skipInfo (σ := σ)) := by
  have hfield (n : UInt64) : Spoils (expectField (σ := σ) n) :=
    Decoder.orderly_varint.spoils.bind fun _ => .ofIte (.ofPure _) (.ofThrow rfl)
  refine (hfield _).bind fun _ => ?_
  refine Decoder.orderly_bool.spoils.bind fun _ => ?_
  refine (hfield _).bind fun _ => ?_
  exact Decoder.orderly_int32.spoils.bind fun _ => hfield _

theorem spoils_limitedCount (limit : Nat) (fault : Nat → Nat → WireFault) :
    Spoils (limitedCount (σ := σ) limit fault) :=
  Decoder.orderly_varint.spoils.bind fun _ => .ofIte (.ofPure _) (.ofThrow rfl)

theorem spoils_readColumn (rows : Nat) : Spoils (readColumn (σ := σ) rows) := by
  refine Decoder.orderly_text.spoils.bind fun name => .ofIte (.ofThrow rfl) ?_
  refine Decoder.orderly_text.spoils.bind fun typeName => .ofIte (.ofThrow rfl) ?_
  cases ColumnType.parse? typeName with
  | none => exact .ofThrow rfl
  | some type => exact (ColumnData.spoils_read type rows).bind fun _ => .ofPure _

theorem spoils_readColumns (rows count : Nat) : Spoils (readColumns (σ := σ) rows count) := by
  induction count with
  | zero => exact .ofPure ()
  | succ count ih =>
    exact (Builder.spoils_reading (spoils_readColumn rows)).bind fun _ =>
      (Builder.spoils_update _).bind fun _ => ih

theorem spoils_readInto : Spoils (readInto (σ := σ)) := by
  refine (Builder.spoils_reading Decoder.orderly_text.spoils).bind fun _ => ?_
  refine Builder.spoils_compressed ?_
  refine (Builder.spoils_reading spoils_skipInfo).bind fun _ => ?_
  refine (Builder.spoils_reading (spoils_limitedCount _ _)).bind fun _ => ?_
  refine (Builder.spoils_reading (spoils_limitedCount _ _)).bind fun _ => ?_
  exact (Builder.spoils_put _).bind fun _ => spoils_readColumns _ _

theorem outside_readInto : Maintains (fun s => s.1.Outside) (readInto (σ := σ)) :=
  (Builder.outside_reading Decoder.orderly_text.outside).bind fun _ => Builder.outside_compressed _

end Block

end Bodies

/-! ## Whole packets -/

variable {σ α : Type} [Source σ]

/-- From one position to the other stands the body of such a packet. -/
def HearsBody (limit : Nat) : ServerPacket → Reader σ → Reader σ → Prop
  | .hello, rd, rd' => ∃ server, ServerInfo.read rd = .ok server rd'
  | .data, rd, rd' => ∃ target block, Block.readInto (rd, target) = .ok () (rd', block)
  | .exception, rd, rd' => ∃ e, ServerException.read limit rd = .ok e rd'
  | .progress, rd, rd' => ∃ p, Progress.read rd = .ok p rd'
  | .profileInfo, rd, rd' => ∃ p, ProfileInfo.read rd = .ok p rd'
  | .tableColumns, rd, rd' => ∃ t, TableColumns.read rd = .ok t rd'
  | .pong, rd, rd' | .endOfStream, rd, rd' => rd' = rd

/-- From one position to the other stands a whole packet of the kind. -/
def Hears (limit : Nat) (kind : ServerPacket) (rd rd' : Reader σ) : Prop :=
  ∃ rd₁, Decoder.varint rd = .ok kind.code rd₁ ∧ HearsBody limit kind rd₁ rd'

/-- From one position to the other stand whole packets of these kinds, back to back. -/
inductive HearsAll (limit : Nat) : List ServerPacket → Reader σ → Reader σ → Prop
  | nil {rd : Reader σ} : HearsAll limit [] rd rd
  | cons {kind : ServerPacket} {kinds : List ServerPacket} {rd rd₁ rd' : Reader σ}
      (hfirst : Hears limit kind rd rd₁) (hrest : HearsAll limit kinds rd₁ rd') :
      HearsAll limit (kind :: kinds) rd rd'

namespace HearsAll

variable {limit : Nat} {kind : ServerPacket} {kinds kinds' : List ServerPacket}
  {rd rd' rd'' : Reader σ}

theorem single (h : Hears limit kind rd rd') : HearsAll limit [kind] rd rd' := .cons h .nil

theorem append (h : HearsAll limit kinds rd rd') (h' : HearsAll limit kinds' rd' rd'') :
    HearsAll limit (kinds ++ kinds') rd rd'' := by
  induction h with
  | nil => exact h'
  | cons hfirst _ ih => exact .cons hfirst (ih h')

end HearsAll

/-- A whole packet takes at least one byte. -/
theorem Hears.left {limit : Nat} {kind : ServerPacket} {rd rd' : Reader σ}
    (h : Hears limit kind rd rd') : rd'.left < rd.left := by
  obtain ⟨rd₁, hcode, hbody⟩ := h
  have hfirst := Decoder.spends_varint.of_ok hcode
  suffices hrest : rd'.left ≤ rd₁.left by omega
  cases kind with
  | hello =>
    obtain ⟨server, hread⟩ := hbody
    exact ServerInfo.spends_read.of_ok hread
  | data =>
    obtain ⟨target, block, hread⟩ := hbody
    exact Block.spends_readInto.of_ok hread
  | exception =>
    obtain ⟨e, hread⟩ := hbody
    exact (ServerException.spends_read limit).of_ok hread
  | progress =>
    obtain ⟨p, hread⟩ := hbody
    exact Progress.spends_read.of_ok hread
  | profileInfo =>
    obtain ⟨p, hread⟩ := hbody
    exact ProfileInfo.spends_read.of_ok hread
  | tableColumns =>
    obtain ⟨p, hread⟩ := hbody
    exact TableColumns.spends_read.of_ok hread
  | pong | endOfStream =>
    cases hbody
    exact Nat.le_refl _

/-- So do several of them each. -/
theorem HearsAll.left {limit : Nat} {kinds : List ServerPacket} {rd rd' : Reader σ}
    (h : HearsAll limit kinds rd rd') : rd'.left + kinds.length ≤ rd.left := by
  induction h with
  | nil => exact Nat.le_refl _
  | cons hfirst _ ih =>
    have hlt := hfirst.left
    rw [List.length_cons]
    omega

/-- **Where the reader stands settles which packet comes next**, and where it ends. -/
theorem Hears.unique {limit : Nat} {kind kind' : ServerPacket} {rd rd₁ rd₂ : Reader σ}
    (h : Hears limit kind rd rd₁) (h' : Hears limit kind' rd rd₂) : kind = kind' ∧ rd₁ = rd₂ := by
  obtain ⟨stop, hcode, hbody⟩ := h
  obtain ⟨stop', hcode', hbody'⟩ := h'
  obtain ⟨hcodes, rfl⟩ := EStateM.Result.ok.inj (hcode.symm.trans hcode')
  have hkinds := congrArg ServerPacket.ofCode? hcodes
  rw [ServerPacket.ofCode?_code, ServerPacket.ofCode?_code] at hkinds
  obtain rfl := Option.some.inj hkinds
  refine ⟨rfl, ?_⟩
  cases kind with
  | data =>
    -- The two may have been read into different blocks.
    obtain ⟨target, block, hread⟩ := hbody
    obtain ⟨target', block', hread'⟩ := hbody'
    have hagain := Block.overwrites_readInto.of_ok hread target'
    rw [hread'] at hagain
    cases hagain
    rfl
  | pong | endOfStream => rw [hbody, hbody']
  | hello | exception | progress | profileInfo | tableColumns =>
    obtain ⟨a, hread⟩ := hbody
    obtain ⟨b, hread'⟩ := hbody'
    rw [hread] at hread'
    cases hread'
    rfl

/-- A whole packet leaves the reader outside of regions. -/
theorem Hears.outside {limit : Nat} {kind : ServerPacket} {rd rd' : Reader σ}
    (h : Hears limit kind rd rd') (hout : rd.Outside) : rd'.Outside := by
  obtain ⟨rd₁, hcode, hbody⟩ := h
  have hout₁ := Decoder.orderly_varint.outside.of_ok hout hcode
  cases kind with
  | hello =>
    obtain ⟨server, hread⟩ := hbody
    exact ServerInfo.orderly_read.outside.of_ok hout₁ hread
  | data =>
    obtain ⟨target, block, hread⟩ := hbody
    exact Block.outside_readInto.of_ok (s := (rd₁, target)) hout₁ hread
  | exception =>
    obtain ⟨e, hread⟩ := hbody
    exact (ServerException.orderly_read limit).outside.of_ok hout₁ hread
  | progress =>
    obtain ⟨p, hread⟩ := hbody
    exact Progress.orderly_read.outside.of_ok hout₁ hread
  | profileInfo =>
    obtain ⟨p, hread⟩ := hbody
    exact ProfileInfo.orderly_read.outside.of_ok hout₁ hread
  | tableColumns =>
    obtain ⟨t, hread⟩ := hbody
    exact TableColumns.orderly_read.outside.of_ok hout₁ hread
  | pong | endOfStream => exact hbody ▸ hout₁

/-- A known number is that of its packet. -/
theorem ServerPacket.code_of_ofCode? {code : UInt64} {kind : ServerPacket}
    (h : ofCode? code = some kind) : code = kind.code := by
  unfold ofCode? at h
  split at h <;> cases h <;> rfl

namespace Policy

variable {p : Policy α} {limit : Nat} {s s' : Reader σ × Tray}

/-! ## Verdicts -/

omit [Source σ] in
theorem judge_goOn {kind : ServerPacket} (h : p.judge kind s = .ok none s') :
    s'.1 = s.1 ∧ ∃ tray tray', p.onPacket kind tray = (.goOn, tray') := by
  unfold judge at h
  rcases hv : p.onPacket kind s.2 with ⟨_ | _ | value, tray⟩ <;> simp only [hv] at h <;> cases h
  exact ⟨rfl, s.2, tray, hv⟩

omit [Source σ] in
theorem judge_done {kind : ServerPacket} {value : α} (h : p.judge kind s = .ok (some value) s') :
    s'.1 = s.1 ∧ ∃ tray tray', p.onPacket kind tray = (.done value, tray') := by
  unfold judge at h
  rcases hv : p.onPacket kind s.2 with ⟨_ | _ | value', tray⟩ <;> simp only [hv] at h <;> cases h
  exact ⟨rfl, s.2, tray, hv⟩

omit [Source σ] in
theorem spoils_judge (kind : ServerPacket) : Spoils (p.judge (σ := σ) kind) := by
  constructor
  intro s s' e h
  unfold judge at h
  rcases hv : p.onPacket kind s.2 with ⟨_ | _ | value, tray⟩ <;> simp only [hv] at h <;> cases h
  rfl

/-! ## One packet -/

/-- A block is read into the tray, and changes nothing else there. -/
theorem readBlock_eq_ok {u : Unit} (h : readBlock s = .ok u s') :
    ∃ b, Block.readInto (s.1, s.2.block) = .ok () (s'.1, b) ∧ s'.2 = { s.2 with block := b } := by
  obtain ⟨rd, t⟩ := s
  rcases hread : Block.readInto (rd, t.block) with ⟨u, rd', b⟩ | ⟨e, rd', b⟩
  · simp only [readBlock, hread] at h
    cases h
    exact ⟨b, rfl, rfl⟩
  · simp [readBlock, hread] at h

/-- So it is where that fails. -/
theorem readBlock_eq_error {e : Error} (h : readBlock s = .error e s') :
    ∃ b, Block.readInto (s.1, s.2.block) = .error e (s'.1, b) ∧ s'.2 = { s.2 with block := b } := by
  obtain ⟨rd, t⟩ := s
  rcases hread : Block.readInto (rd, t.block) with ⟨u, rd', b⟩ | ⟨e, rd', b⟩
  · simp [readBlock, hread] at h
  · simp only [readBlock, hread] at h
    cases h
    exact ⟨b, rfl, rfl⟩

/-- What a policy has read when it judges a packet. -/
theorem body_eq_ok {kind : ServerPacket} {verdict : Option α} (h : p.body limit kind s = .ok verdict s') :
    ∃ s₁, HearsBody limit kind s.1 s₁.1 ∧ p.judge kind s₁ = .ok verdict s' := by
  cases kind with
  | hello => exact absurd h throw_ne_ok
  | exception =>
    obtain ⟨e, s₁, -, hthrow⟩ := bind_eq_ok.mp h
    exact absurd hthrow throw_ne_ok
  | data =>
    by_cases htakes : p.takesData = true
    · rw [body, if_pos htakes] at h
      obtain ⟨u, s₁, hblock, hjudge⟩ := bind_eq_ok.mp h
      obtain ⟨b, hread, -⟩ := readBlock_eq_ok hblock
      exact ⟨s₁, ⟨s.2.block, b, hread⟩, hjudge⟩
    · rw [body, if_neg htakes] at h
      exact absurd h throw_ne_ok
  | progress =>
    obtain ⟨info, s₁, hbuild, hjudge⟩ := bind_eq_ok.mp h
    obtain ⟨rd, hread, rfl⟩ := Builder.reading_eq_ok hbuild
    exact ⟨(rd, s.2), ⟨info, hread⟩, hjudge⟩
  | profileInfo =>
    obtain ⟨info, s₁, hbuild, hjudge⟩ := bind_eq_ok.mp h
    obtain ⟨rd, hread, rfl⟩ := Builder.reading_eq_ok hbuild
    exact ⟨(rd, s.2), ⟨info, hread⟩, hjudge⟩
  | tableColumns =>
    obtain ⟨t, s₁, hbuild, hjudge⟩ := bind_eq_ok.mp h
    obtain ⟨rd, hread, rfl⟩ := Builder.reading_eq_ok hbuild
    exact ⟨(rd, s.2), ⟨t, hread⟩, hjudge⟩
  | pong | endOfStream => exact ⟨s, rfl, h⟩

/-- How reading a body fails. -/
theorem body_eq_error {kind : ServerPacket} {e : Error} (h : p.body limit kind s = .error e s') :
    e.spoilsConnection = true ∨ kind = .exception ∧ HearsBody limit .exception s.1 s'.1 := by
  cases kind with
  | exception =>
    rcases bind_eq_error.mp h with hbuild | ⟨exception, s₁, hbuild, hthrow⟩
    · exact .inl ((Builder.spoils_reading (ServerException.orderly_read limit).spoils).of_error hbuild)
    · obtain ⟨rd, hread, rfl⟩ := Builder.reading_eq_ok hbuild
      obtain ⟨-, rfl⟩ := throw_eq_error.mp hthrow
      exact .inr ⟨rfl, exception, hread⟩
  | hello => exact .inl (Spoils.ofThrow rfl |>.of_error h)
  | data =>
    have hblock : Spoils (readBlock (σ := σ)) := by
      constructor
      intro s s' e h
      obtain ⟨b, hread, -⟩ := readBlock_eq_error h
      exact Block.spoils_readInto.of_error hread
    have hbody : Spoils (p.body (σ := σ) limit .data) :=
      .ofIte (hblock.bind fun _ => spoils_judge _) (.ofThrow rfl)
    exact .inl (hbody.of_error h)
  | progress =>
    exact .inl (((Builder.spoils_reading Progress.orderly_read.spoils).bind fun _ =>
      spoils_judge _).of_error h)
  | profileInfo =>
    exact .inl (((Builder.spoils_reading ProfileInfo.orderly_read.spoils).bind fun _ =>
      spoils_judge _).of_error h)
  | tableColumns =>
    exact .inl (((Builder.spoils_reading TableColumns.orderly_read.spoils).bind fun _ =>
      spoils_judge _).of_error h)
  | pong | endOfStream => exact .inl ((spoils_judge _).of_error h)

/-- A policy that is not done with a packet, or that is, has heard all of it. -/
theorem packet_eq_ok {verdict : Option α} (h : p.packet limit s = .ok verdict s') :
    ∃ kind s₁, Hears limit kind s.1 s₁.1 ∧ p.judge kind s₁ = .ok verdict s' := by
  obtain ⟨code, s₁, hbuild, hbody⟩ := bind_eq_ok.mp h
  obtain ⟨rd, hcode, rfl⟩ := Builder.reading_eq_ok hbuild
  cases hkind : ServerPacket.ofCode? code with
  | none =>
    rw [hkind] at hbody
    exact absurd hbody throw_ne_ok
  | some kind =>
    rw [hkind] at hbody
    obtain ⟨s₂, hheard, hjudge⟩ := body_eq_ok hbody
    rw [ServerPacket.code_of_ofCode? hkind] at hcode
    exact ⟨kind, s₂, ⟨rd, hcode, hheard⟩, hjudge⟩

/-- A packet that ends a reply in failure spoils the connection, or it is a whole exception. -/
theorem packet_eq_error {e : Error} (h : p.packet limit s = .error e s') :
    e.spoilsConnection = true ∨ Hears limit .exception s.1 s'.1 := by
  rcases bind_eq_error.mp h with hbuild | ⟨code, s₁, hbuild, hbody⟩
  · exact .inl ((Builder.spoils_reading Decoder.orderly_varint.spoils).of_error hbuild)
  · obtain ⟨rd, hcode, rfl⟩ := Builder.reading_eq_ok hbuild
    cases hkind : ServerPacket.ofCode? code with
    | none =>
      rw [hkind] at hbody
      exact .inl (Spoils.ofThrow rfl |>.of_error hbody)
    | some kind =>
      rw [hkind] at hbody
      rcases body_eq_error hbody with hspoils | ⟨rfl, hheard⟩
      · exact .inl hspoils
      · rw [ServerPacket.code_of_ofCode? hkind] at hcode
        exact .inr ⟨rd, hcode, hheard⟩

/-! ## Whole replies -/

/-- **A reply that ends well has heard whole packets**: it goes on behind all but the last one, and is
done with that. -/
theorem run_eq_ok {value : α} (h : p.run limit s = .ok value s') :
    ∃ kinds kind, HearsAll limit (kinds ++ [kind]) s.1 s'.1 ∧
      (∀ k ∈ kinds, ∃ tray tray', p.onPacket k tray = (.goOn, tray')) ∧
      ∃ tray tray', p.onPacket kind tray = (.done value, tray') := by
  fun_induction run p limit s with
  | case1 => cases h
  | case2 s value' s₁ hpacket =>
    cases h
    obtain ⟨kind, s₂, hheard, hjudge⟩ := packet_eq_ok hpacket
    obtain ⟨hreader, hdone⟩ := judge_done hjudge
    exact ⟨[], kind, .single (hreader ▸ hheard), List.forall_mem_nil _, hdone⟩
  | case3 s s₁ hpacket ih =>
    obtain ⟨kind, s₂, hheard, hjudge⟩ := packet_eq_ok hpacket
    obtain ⟨hreader, hgoesOn⟩ := judge_goOn hjudge
    obtain ⟨kinds, last, hrest, hgoOn, hdone⟩ := ih h
    exact ⟨kind :: kinds, last, .cons (hreader ▸ hheard) hrest,
      List.forall_mem_cons.mpr ⟨hgoesOn, hgoOn⟩, hdone⟩

/-- **A reply that fails has spoiled the connection, or has heard a whole exception last** and has gone
on behind all before. -/
theorem run_eq_error {e : Error} (h : p.run limit s = .error e s') :
    e.spoilsConnection = true ∨ ∃ kinds, HearsAll limit (kinds ++ [.exception]) s.1 s'.1 ∧
      ∀ k ∈ kinds, ∃ tray tray', p.onPacket k tray = (.goOn, tray') := by
  fun_induction run p limit s with
  | case1 s e' s₁ hpacket =>
    cases h
    rcases packet_eq_error hpacket with hspoils | hheard
    · exact .inl hspoils
    · exact .inr ⟨[], .single hheard, List.forall_mem_nil _⟩
  | case2 => cases h
  | case3 s s₁ hpacket ih =>
    obtain ⟨kind, s₂, hheard, hjudge⟩ := packet_eq_ok hpacket
    obtain ⟨hreader, hgoesOn⟩ := judge_goOn hjudge
    rcases ih h with hspoils | ⟨kinds, hrest, hgoOn⟩
    · exact .inl hspoils
    · exact .inr ⟨kind :: kinds, .cons (hreader ▸ hheard) hrest,
        List.forall_mem_cons.mpr ⟨hgoesOn, hgoOn⟩⟩

end Policy

end ColumnWire
