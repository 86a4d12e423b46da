import ColumnWire.Proofs.Packet.Chain

/-!
# What tidying leaves of a message

A record is read as it was sent (`Sent`) and then tidied: one `name:` is taken off the front of its
message, and then the blanks off both ends. So a message never has a blank at an end, but it may
still start with its own name: just when it was sent with the name twice, or behind blanks
(`named_tidied_iff`). A chain that is written and read again is the same one unless that is so
of one of its messages (`reread`); `named_when_read` is a chain of which it is so.
-/
namespace ColumnWire

namespace ExceptionRecord

/-- The name with its colon, as messages repeat it. -/
def label (r : ExceptionRecord) : List Char := r.name.toList ++ [':']

/-- The message starts with the name and a colon. -/
def Named (r : ExceptionRecord) : Prop := r.label <+: r.message.toList

/-- The message has no blank at either end. -/
structure Stripped (r : ExceptionRecord) : Prop where
  first : ∀ c ∈ r.message.toList.head?, Blank.isBlank c = false
  last : ∀ c ∈ r.message.toList.getLast?, Blank.isBlank c = false

/-- The message has a name left behind the one that is taken off, or behind blanks. -/
def NamedAgain (r : ExceptionRecord) : Prop :=
  ∃ blanks, (∀ c ∈ blanks, Blank.isBlank c = true) ∧
    (r.label ++ blanks ++ r.label <+: r.message.toList ∨
      blanks ≠ [] ∧ blanks ++ r.label <+: r.message.toList)

variable {r : ExceptionRecord}

theorem stripped_tidied (r : ExceptionRecord) : r.tidied.Stripped := by
  obtain ⟨rest, -, htrimmed⟩ := r.keptAs_tidied.message
  exact ⟨htrimmed.first, htrimmed.last⟩

/-- A label ends in a colon, which is no blank. -/
theorem getLast?_label (r : ExceptionRecord) : ∀ c ∈ r.label.getLast?, Blank.isBlank c = false := by
  intro c hc
  rw [label, List.getLast?_append, List.getLast?_singleton, Option.some_or] at hc
  cases hc
  decide

theorem label_ne_nil (r : ExceptionRecord) : r.label ≠ [] := by simp [label]

end ExceptionRecord

/-- Trimming leaves what has no blank at either end, and what is behind it up to the last blanks. -/
theorem Blank.prefix_trim_append {front : List Char} (hne : front ≠ [])
    (hfirst : ∀ c ∈ front.head?, isBlank c = false)
    (hlast : ∀ c ∈ front.getLast?, isBlank c = false) (rest : List Char) :
    front <+: trim (front ++ rest) := by
  have hstart : (front ++ rest).dropWhile isBlank = front ++ rest := by
    cases front with
    | nil => exact absurd rfl hne
    | cons c front =>
      rw [List.cons_append, List.dropWhile_cons_of_neg]
      simp [hfirst c rfl]
  obtain ⟨after, hsplit, hafter⟩ := exists_trimEnd_append (front ++ rest)
  rw [trim, hstart]
  rcases List.append_eq_append_iff.mp hsplit with ⟨kept, hkept, -⟩ | ⟨lost, hlost, hrest⟩
  · exact ⟨kept, hkept.symm⟩
  · -- Were a part of the front lost, its last character would be a blank.
    cases hend : lost.getLast? with
    | none =>
      rw [List.getLast?_eq_none_iff] at hend
      rw [hend, List.append_nil] at hlost
      exact ⟨[], (List.append_nil front).trans hlost⟩
    | some c =>
      have hmem : c ∈ after := by
        rw [hrest]
        exact List.mem_append_left _ (List.mem_of_getLast? hend)
      have hc : isBlank c = false := by
        apply hlast
        rw [hlost, List.getLast?_append, hend]
        rfl
      rw [hafter c hmem] at hc
      cases hc

namespace ExceptionRecord

variable {r : ExceptionRecord}

/-- What is taken off a message that starts with its name. -/
theorem withoutName_of_label {rest : List Char} (h : r.message.toList = r.label ++ rest) :
    withoutName r.name.toList r.message.toList = rest := by
  have hprefix : (r.name.toList ++ [':']).isPrefixOf r.message.toList = true := by
    rw [List.isPrefixOf_iff_prefix, h]
    exact List.prefix_append _ _
  rw [withoutName, if_pos hprefix, h]
  simp [label]

theorem withoutName_of_not_named (h : ¬ r.Named) :
    withoutName r.name.toList r.message.toList = r.message.toList := by
  have hprefix : ¬ (r.name.toList ++ [':']).isPrefixOf r.message.toList = true :=
    mt List.isPrefixOf_iff_prefix.mp h
  rw [withoutName, if_neg hprefix]

theorem toList_tidied (r : ExceptionRecord) :
    r.tidied.message.toList = Blank.trim (withoutName r.name.toList r.message.toList) := by
  rw [tidied, tidy, String.toList_ofList]

/-- **Which messages still start with their name**: those in which it stood a second time, or
behind blanks, unless it starts with a blank itself. -/
theorem named_tidied_iff (r : ExceptionRecord) :
    r.tidied.Named ↔ (∀ c ∈ r.label.head?, Blank.isBlank c = false) ∧ r.NamedAgain := by
  have hne := r.label_ne_nil
  constructor
  · intro hnamed
    obtain ⟨behind, hbehind⟩ : r.label <+: r.tidied.message.toList := hnamed
    have htrimmed := Blank.trimmed_trim (withoutName r.name.toList r.message.toList)
    rw [← toList_tidied] at htrimmed
    obtain ⟨blanks, after, hwhole, hblanks, -⟩ := htrimmed.around
    have hfront : blanks ++ r.label <+: withoutName r.name.toList r.message.toList := by
      refine ⟨behind ++ after, ?_⟩
      rw [hwhole, ← hbehind]
      simp only [List.append_assoc]
    refine ⟨fun c hc => htrimmed.first c ?_, blanks, hblanks, ?_⟩
    · rw [← hbehind, List.head?_append, Option.mem_def.mp hc]
      rfl
    · rcases withoutName_cases r.name.toList r.message.toList with htaken | ⟨hwhole, hnone⟩
      · left
        obtain ⟨rest, hrest⟩ := hfront
        refine ⟨rest, ?_⟩
        rw [htaken, ← hrest]
        simp [label]
      · right
        rw [hwhole] at hfront
        refine ⟨?_, hfront⟩
        rintro rfl
        exact hnone hfront
  · rintro ⟨hfirst, blanks, hblanks, hagain⟩
    suffices h : ∃ rest,
        withoutName r.name.toList r.message.toList = blanks ++ (r.label ++ rest) ++ [] by
      obtain ⟨rest, hrest⟩ := h
      show r.label <+: r.tidied.message.toList
      rw [toList_tidied, hrest, Blank.trim_between_blanks hblanks (by simp)]
      exact Blank.prefix_trim_append hne hfirst r.getLast?_label rest
    rcases hagain with ⟨rest, hrest⟩ | ⟨hsome, rest, hrest⟩
    · refine ⟨rest, withoutName_of_label ?_⟩
      rw [← hrest]
      simp only [List.append_assoc, List.append_nil]
    · refine ⟨rest, ?_⟩
      have hnone : ¬ r.Named := by
        rintro ⟨behind, hbehind⟩
        obtain ⟨c, blanks, rfl⟩ := List.exists_cons_of_ne_nil hsome
        have hhead : r.label.head? = some c := by
          have heq := congrArg List.head? (hbehind.trans hrest.symm)
          rwa [List.head?_append_of_ne_nil _ hne] at heq
        have hc := hfirst c hhead
        rw [hblanks c List.mem_cons_self] at hc
        cases hc
      rw [withoutName_of_not_named hnone, ← hrest]
      simp only [List.append_assoc, List.append_nil]

/-- A stripped message is tidy just when it does not start with its name. -/
theorem Stripped.tidied_eq_self_iff (h : r.Stripped) : r.tidied = r ↔ ¬ r.Named := by
  constructor
  · rintro heq ⟨rest, hrest⟩
    have hshort : r.message.toList.length ≤ rest.length := by
      rw [← heq, toList_tidied, withoutName_of_label hrest.symm]
      obtain ⟨before, after, hwhole, -, -⟩ := (Blank.trimmed_trim rest).around
      have hlength := congrArg List.length hwhole
      rw [List.length_append, List.length_append] at hlength
      omega
    have hlong := List.length_pos_iff.mpr r.label_ne_nil
    rw [← hrest, List.length_append] at hshort
    omega
  · intro hnone
    have hmessage : tidy r.name r.message = r.message := by
      rw [tidy, withoutName_of_not_named hnone, Blank.trim_eq_self h.first h.last,
        String.ofList_toList]
    rw [tidied, hmessage]

end ExceptionRecord

namespace ServerException

/-! ## What was sent -/

section Sent

variable {σ : Type} [Source σ]

/-- From one position to the other stands a record as it was sent, and whether another one
follows. -/
def Sent (r : ExceptionRecord) (more : Bool) (rd rd' : Reader σ) : Prop :=
  ∃ rd₁ rd₂ rd₃ rd₄, Decoder.int32 rd = .ok r.code rd₁ ∧ Decoder.text rd₁ = .ok r.name rd₂ ∧
    Decoder.text rd₂ = .ok r.message rd₃ ∧ Decoder.text rd₃ = .ok r.stackTrace rd₄ ∧
    Decoder.bool rd₄ = .ok more rd'

/-- From one position to the other stand these records as they were sent, the last of which says
that there are no more. -/
inductive SentAll : List ExceptionRecord → Reader σ → Reader σ → Prop
  | last {r : ExceptionRecord} {rd rd' : Reader σ} (hsent : Sent r false rd rd') :
      SentAll [r] rd rd'
  | more {r : ExceptionRecord} {records : List ExceptionRecord} {rd rd₁ rd' : Reader σ}
      (hsent : Sent r true rd rd₁) (hrest : SentAll records rd₁ rd') : SentAll (r :: records) rd rd'

variable {records : List ExceptionRecord} {rd rd' : Reader σ}

/-- A record is read as it was sent, and tidied. -/
theorem readRecord_eq_ok {kept : ExceptionRecord} {more : Bool}
    (h : readRecord rd = .ok (kept, more) rd') : ∃ r, Sent r more rd rd' ∧ kept = r.tidied := by
  obtain ⟨code, rd₁, hcode, h⟩ := bind_eq_ok.mp h
  obtain ⟨name, rd₂, hname, h⟩ := bind_eq_ok.mp h
  obtain ⟨message, rd₃, hmessage, h⟩ := bind_eq_ok.mp h
  obtain ⟨stackTrace, rd₄, hstack, h⟩ := bind_eq_ok.mp h
  obtain ⟨more', rd₅, hmore, h⟩ := bind_eq_ok.mp h
  obtain ⟨heq, rfl⟩ := pure_eq_ok.mp h
  cases heq
  exact ⟨⟨code, name, message, stackTrace⟩,
    ⟨rd₁, rd₂, rd₃, rd₄, hcode, hname, hmessage, hstack, hmore⟩, rfl⟩

theorem Stands.exists_sent (h : Stands records rd rd') :
    ∃ sent, SentAll sent rd rd' ∧ records = sent.map (·.tidied) := by
  induction h with
  | last hread =>
    obtain ⟨r, hsent, rfl⟩ := readRecord_eq_ok hread
    exact ⟨[r], .last hsent, rfl⟩
  | more hread _ ih =>
    obtain ⟨r, hsent, rfl⟩ := readRecord_eq_ok hread
    obtain ⟨sent, hrest, rfl⟩ := ih
    exact ⟨r :: sent, .more hsent hrest, rfl⟩

end Sent

/-! ## Written and read again -/

theorem tidied_eq_self_iff {e : ServerException} (h : ∀ r ∈ e.chain, r.Stripped) :
    e.tidied = e ↔ ∀ r ∈ e.chain, ¬ r.Named := by
  have hchain : e.tidied.chain = e.chain.map (·.tidied) := rfl
  have hrecords : e.tidied = e ↔ e.chain.map (·.tidied) = e.chain.map id := by
    rw [List.map_id, ← hchain]
    exact ⟨congrArg chain, chain_injective⟩
  rw [hrecords, List.map_inj_left]
  exact forall₂_congr fun r hr => (h r hr).tidied_eq_self_iff

/-- **What is read is trimmed, and read again as it is unless it still starts with its name.** Of a
chain that is read off any stream, no message has a blank at an end, and a message starts with its
own name just when it was sent with the name twice, blanks between them or not, or with blanks in
front of the name (and when the name does not start with a blank). If its texts are not too long, it
is written and read again with one more name taken off such messages, and so it is the same chain
just when there is none. -/
theorem reread {σ : Type} [Source σ] {limit : Nat} {e : ServerException} {rd rd' : Reader σ}
    (h : read limit rd = .ok e rd') :
    (∀ r ∈ e.chain, r.Stripped) ∧
    (∃ sent, SentAll sent rd rd' ∧ List.Forall₂ (fun s r => s.KeptAs r ∧
      (r.Named ↔ (∀ c ∈ s.label.head?, Blank.isBlank c = false) ∧ s.NamedAgain)) sent e.chain) ∧
    (e.WithinLimits → ∀ stop : Reader Cursor, stop.region = none →
      ∃ e', read limit (stop.before e.encode) = .ok e' stop ∧
        List.Forall₂ ExceptionRecord.KeptAs e.chain e'.chain ∧
        (e' = e ↔ ∀ r ∈ e.chain, ¬ r.Named)) := by
  obtain ⟨hdepth, hstands⟩ := read_eq_ok_iff.mp h
  obtain ⟨sent, hsent, hchain⟩ := hstands.exists_sent
  have hstripped : ∀ r ∈ e.chain, r.Stripped := by
    rw [hchain]
    intro r hr
    obtain ⟨s, -, rfl⟩ := List.mem_map.mp hr
    exact s.stripped_tidied
  refine ⟨hstripped, ⟨sent, hsent, ?_⟩, fun hlimits stop hout => ?_⟩
  · rw [hchain, List.forall₂_map_right_iff, List.forall₂_same]
    exact fun s _ => ⟨s.keptAs_tidied, s.named_tidied_iff⟩
  · refine ⟨e.tidied, (reads_read hdepth hlimits).eq_ok_before hout, ?_,
      tidied_eq_self_iff hstripped⟩
    have htidied : e.tidied.chain = e.chain.map (·.tidied) := rfl
    rw [htidied, List.forall₂_map_right_iff, List.forall₂_same]
    exact fun r _ => r.keptAs_tidied

/-- Two records, of which the first was sent with its name twice: it still starts with it, and the
chain that is read again is another one. -/
theorem reread_twice :
    let cause : ExceptionRecord := ⟨1, "Poco::Exception", " down\n", "0. trace"⟩
    let e : ServerException := ⟨⟨62, "DB", "DB: DB: at end ", ""⟩, [cause]⟩
    let stop : Reader Cursor := ⟨⟨[5], .closed⟩, none, true, none⟩
    read 2 (stop.before e.encode) = .ok e.tidied stop ∧ (∀ r ∈ e.tidied.chain, r.Stripped) ∧
      e.tidied.WithinLimits ∧ e.tidied.outer.Named ∧
      ∃ e', read 2 (stop.before e.tidied.encode) = .ok e' stop ∧ e' ≠ e.tidied := by
  intro cause e stop
  have hlimits : e.WithinLimits := by
    refine List.forall_mem_cons.mpr ⟨?_, List.forall_mem_cons.mpr ⟨?_, List.forall_mem_nil _⟩⟩ <;>
      exact ⟨by decide +kernel, by decide +kernel, by decide +kernel⟩
  have hkept : e.tidied.WithinLimits := by
    refine List.forall_mem_cons.mpr ⟨?_, List.forall_mem_cons.mpr ⟨?_, List.forall_mem_nil _⟩⟩ <;>
      exact ⟨by decide +kernel, by decide +kernel, by decide +kernel⟩
  have hread : read 2 (stop.before e.encode) = .ok e.tidied stop :=
    (reads_read (by decide) hlimits).eq_ok_before rfl
  have hnamed : e.tidied.outer.Named := by
    show e.tidied.outer.label <+: e.tidied.outer.message.toList
    decide +kernel
  obtain ⟨hstripped, -, hagain⟩ := reread hread
  obtain ⟨e', hread', -, hsame⟩ := hagain hkept stop rfl
  exact ⟨hread, hstripped, hkept, hnamed, e', hread',
    fun heq => hsame.mp heq _ List.mem_cons_self hnamed⟩

/-- The bytes of one record with its name twice in front of its message: what is read starts with
the name, and written and read again it is another chain. -/
theorem named_when_read :
    let bytes : Bytes := [62, 0, 0, 0, 2, 68, 66, 9, 68, 66, 58, 32, 68, 66, 58, 32, 120, 0, 0]
    let stop : Reader Cursor := ⟨⟨[], .closed⟩, none, false, none⟩
    let kept : ServerException := ⟨⟨62, "DB", "DB: x", ""⟩, []⟩
    let again : ServerException := ⟨⟨62, "DB", "x", ""⟩, []⟩
    read 64 (stop.before bytes) = .ok kept stop ∧ kept.outer.Named ∧ kept.WithinLimits ∧
      read 64 (stop.before kept.encode) = .ok again stop ∧ again ≠ kept := by
  intro bytes stop kept again
  have hlimits : WithinLimits ⟨⟨62, "DB", "DB: DB: x", ""⟩, []⟩ :=
    List.forall_mem_cons.mpr
      ⟨⟨by decide +kernel, by decide +kernel, by decide +kernel⟩, List.forall_mem_nil _⟩
  have hkept : kept.WithinLimits :=
    List.forall_mem_cons.mpr
      ⟨⟨by decide +kernel, by decide +kernel, by decide +kernel⟩, List.forall_mem_nil _⟩
  have hread : read 64 (stop.before bytes) = .ok kept stop := by
    have hbytes : bytes = encode ⟨⟨62, "DB", "DB: DB: x", ""⟩, []⟩ := by decide +kernel
    have htidied : kept = tidied ⟨⟨62, "DB", "DB: DB: x", ""⟩, []⟩ := by decide +kernel
    rw [hbytes, htidied]
    exact (reads_read (by decide) hlimits).eq_ok_before rfl
  have hagain : read 64 (stop.before kept.encode) = .ok again stop := by
    have htidied : again = kept.tidied := by decide +kernel
    rw [htidied]
    exact (reads_read (by decide) hkept).eq_ok_before rfl
  have hnamed : kept.outer.Named := by
    show kept.outer.label <+: kept.outer.message.toList
    decide +kernel
  exact ⟨hread, hnamed, hkept, hagain, by decide +kernel⟩

end ServerException

end ColumnWire
