import ColumnWire.Proofs.Packet.Exception
import ColumnWire.Proofs.Text.Trim
import Mathlib.Data.List.Forall2

/-!
# Chains of exceptions on the wire

`read_encode` says what comes of a chain that was written: within the limit all its records come
back in order, and only their messages are trimmed (`KeptAs`); past the limit nothing comes back, and
exactly as many records have been read as the limit allows. `read_eq_ok_iff` says what a chain
is on any stream: records one after another, of which only the last says that it is the last.
-/
namespace ColumnWire

/-- How a record is kept: `name:` is dropped in front of its message, once, if it is there, and the
message is trimmed. Everything else stays. -/
structure ExceptionRecord.KeptAs (r kept : ExceptionRecord) : Prop where
  code : kept.code = r.code
  name : kept.name = r.name
  stackTrace : kept.stackTrace = r.stackTrace
  message : ∃ rest, (r.message.toList = r.name.toList ++ ':' :: rest ∨
      rest = r.message.toList ∧ ¬ r.name.toList ++ [':'] <+: r.message.toList) ∧
    Blank.Trimmed rest kept.message.toList

theorem ExceptionRecord.withoutName_cases (name message : List Char) :
    message = name ++ ':' :: withoutName name message ∨
      withoutName name message = message ∧ ¬ name ++ [':'] <+: message := by
  unfold withoutName
  split
  · next hnamed =>
    obtain ⟨rest, rfl⟩ := List.isPrefixOf_iff_prefix.mp hnamed
    left
    simp
  · next hnamed => exact .inr ⟨rfl, mt List.isPrefixOf_iff_prefix.mpr hnamed⟩

theorem ExceptionRecord.keptAs_tidied (r : ExceptionRecord) : r.KeptAs r.tidied where
  code := by simp only [tidied]
  name := by simp only [tidied]
  stackTrace := by simp only [tidied]
  message := by
    refine ⟨withoutName r.name.toList r.message.toList, withoutName_cases _ _, ?_⟩
    rw [tidied, tidy, String.toList_ofList]
    exact Blank.trimmed_trim _

namespace ServerException

/-! ## Chains that were written -/

/-- Every record in front of another one says that there is one more. -/
theorem encodeChain_split {records : List ExceptionRecord} {n : Nat} (hn : n < records.length) :
    encodeChain records =
      (records.take n).flatMap (encodeRecord · true) ++ encodeChain (records.drop n) := by
  induction n generalizing records with
  | zero => simp
  | succ n ih =>
    match records, hn with
    | r :: c :: causes, hn =>
      have hless : n < (c :: causes).length := by simpa using hn
      have hrest := ih hless
      rw [encodeChain, encodeFrom, List.take_succ_cons, List.drop_succ_cons, List.flatMap_cons,
        List.append_assoc, ← hrest]
      rfl

/-- **A chain is read back in order up to the limit**, whatever stands behind it. One that is longer
is given up when as many records have been read as the limit allows, and none of them is returned. -/
theorem read_encode {e : ServerException} (hlimits : e.WithinLimits) (limit : Nat)
    {stop : Reader Cursor} (hout : stop.region = none) :
    (e.depth ≤ limit → ∃ kept, read limit (stop.before e.encode) = .ok kept stop ∧
      List.Forall₂ ExceptionRecord.KeptAs e.chain kept.chain) ∧
    (limit < e.depth →
      e.encode = (e.chain.take limit).flatMap (encodeRecord · true) ++ encodeChain (e.chain.drop limit) ∧
      read limit (stop.before e.encode) =
        .error (.exceptionTooDeep limit) (stop.before (encodeChain (e.chain.drop limit)))) := by
  refine ⟨fun hdepth => ?_, fun hdepth => ⟨?_, read_tooDeep hdepth hlimits hout⟩⟩
  · refine ⟨e.tidied, (reads_read hdepth hlimits).eq_ok_before hout, ?_⟩
    have hchain : e.tidied.chain = e.chain.map (·.tidied) := rfl
    rw [hchain, List.forall₂_map_right_iff, List.forall₂_same]
    intro r _
    exact r.keptAs_tidied
  · rw [← encodeChain_chain]
    exact encodeChain_split hdepth

/-- Two records, of which the first repeats its name in front of its message; with room for both,
and with room for one. -/
theorem read_encode_two :
    let cause : ExceptionRecord := ⟨1, "Poco::Exception", " down\n", "0. trace"⟩
    let e : ServerException := ⟨⟨62, "DB", "DB: DB: at end ", ""⟩, [cause]⟩
    let stop : Reader Cursor := ⟨⟨[5], .closed⟩, none, true, none⟩
    e.WithinLimits ∧ stop.region = none ∧
      (∃ kept, read 2 (stop.before e.encode) = .ok kept stop ∧
        List.Forall₂ ExceptionRecord.KeptAs e.chain kept.chain) ∧
      read 1 (stop.before e.encode) =
        .error (.exceptionTooDeep 1) (stop.before (encodeChain [cause])) := by
  intro cause e stop
  have houter : ExceptionRecord.WithinLimits ⟨62, "DB", "DB: DB: at end ", ""⟩ :=
    ⟨by decide +kernel, by decide +kernel, by decide +kernel⟩
  have hcause : ExceptionRecord.WithinLimits ⟨1, "Poco::Exception", " down\n", "0. trace"⟩ :=
    ⟨by decide +kernel, by decide +kernel, by decide +kernel⟩
  have hlimits : e.WithinLimits :=
    List.forall_mem_cons.mpr ⟨houter, List.forall_mem_cons.mpr ⟨hcause, List.forall_mem_nil _⟩⟩
  have hout : stop.region = none := rfl
  exact ⟨hlimits, hout, (read_encode hlimits 2 hout).1 (by decide),
    ((read_encode hlimits 1 hout).2 (by decide)).2⟩

/-! ## Chains on any stream -/

variable {σ : Type} [Source σ]

/-- From one position to the other stand these records, the last of which says that there are no
more. -/
inductive Stands : List ExceptionRecord → Reader σ → Reader σ → Prop
  | last {r : ExceptionRecord} {rd rd' : Reader σ} (hread : readRecord rd = .ok (r, false) rd') :
      Stands [r] rd rd'
  | more {r : ExceptionRecord} {records : List ExceptionRecord} {rd rd₁ rd' : Reader σ}
      (hread : readRecord rd = .ok (r, true) rd₁) (hrest : Stands records rd₁ rd') :
      Stands (r :: records) rd rd'

variable {limit room : Nat} {outer records : List ExceptionRecord} {e : ServerException}
  {rd rd' : Reader σ}

theorem chain_foldl_under (outer : List ExceptionRecord) (e : ServerException) :
    (outer.foldl under e).chain = outer.reverse ++ e.chain := by
  induction outer generalizing e with
  | nil => rfl
  | cons r outer ih =>
    rw [List.foldl_cons, ih, List.reverse_cons, List.append_assoc]
    rfl

theorem chain_injective {e e' : ServerException} (h : e.chain = e'.chain) : e = e' := by
  have hsome : some e = some e' := by rw [← ofChain?_chain, h, ofChain?_chain]
  exact Option.some.inj hsome

/-- What has been read comes behind the records that were read before. -/
theorem readFrom_eq_ok_iff : readFrom limit room outer rd = .ok e rd' ↔
    ∃ records, Stands records rd rd' ∧ records.length ≤ room ∧ e.chain = outer.reverse ++ records := by
  induction room generalizing outer rd with
  | zero =>
    constructor
    · intro h
      exact absurd h throw_ne_ok
    · rintro ⟨records, hstands, hlength, -⟩
      cases hstands <;> simp at hlength
  | succ room ih =>
    constructor
    · intro h
      obtain ⟨⟨r, more⟩, rd₁, hread, hrest⟩ := bind_eq_ok.mp h
      cases more with
      | false =>
        obtain ⟨rfl, rfl⟩ := pure_eq_ok.mp hrest
        exact ⟨[r], .last hread, by simp, chain_foldl_under outer ⟨r, []⟩⟩
      | true =>
        obtain ⟨records, hstands, hlength, hchain⟩ := ih.mp hrest
        refine ⟨r :: records, .more hread hstands, by simpa using hlength, ?_⟩
        rw [hchain, List.reverse_cons, List.append_assoc]
        rfl
    · rintro ⟨records, hstands, hlength, hchain⟩
      refine bind_eq_ok.mpr ?_
      cases hstands with
      | last hread =>
        refine ⟨_, _, hread, pure_eq_ok.mpr ⟨chain_injective ?_, rfl⟩⟩
        rw [hchain, chain_foldl_under]
        rfl
      | @more r records rd rd₁ rd' hread hrest =>
        refine ⟨_, _, hread, ih.mpr ⟨records, hrest, by simpa using hlength, ?_⟩⟩
        rw [hchain, List.reverse_cons, List.append_assoc]
        rfl

/-- **A chain is read just where one stands that is not longer than the limit**, and the reader stops
right behind it. -/
theorem read_eq_ok_iff : read limit rd = .ok e rd' ↔ e.depth ≤ limit ∧ Stands e.chain rd rd' := by
  unfold read
  rw [readFrom_eq_ok_iff]
  constructor
  · rintro ⟨records, hstands, hlength, hchain⟩
    rw [List.reverse_nil, List.nil_append] at hchain
    rw [depth, hchain]
    exact ⟨hlength, hstands⟩
  · rintro ⟨hdepth, hstands⟩
    exact ⟨e.chain, hstands, hdepth, rfl⟩

end ServerException

end ColumnWire
