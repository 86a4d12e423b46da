import ColumnWire.Proofs.Frame.Cut
import ColumnWire.Stream.Builder

/-!
# What a reader has in front of it

A reader offers a byte string when that string is what it gives out next: straight from
its source, or as the content of frames. `take_offers` says that taking bytes makes no
difference between the two, wherever the frames were cut. `Reads d bs a` lifts this to a
decoder: wherever `bs` is offered it yields `a`, and what follows `bs` is offered next.
`Gathers` is about items that are read up to an end.
-/
namespace ColumnWire

namespace Reader

/-- The reader as it was before it read `bs`. -/
def before (rd : Reader Cursor) (bs : Bytes) : Reader Cursor :=
  { rd with source := { rd.source with bytes := bs ++ rd.source.bytes } }

@[simp] theorem before_nil (rd : Reader Cursor) : rd.before [] = rd := rfl

@[simp] theorem before_before (rd : Reader Cursor) (first second : Bytes) :
    (rd.before second).before first = rd.before (first ++ second) := by
  simp [before]

@[simp] theorem region_before (rd : Reader Cursor) (bs : Bytes) :
    (rd.before bs).region = rd.region := rfl

/-- A reader stands in front of any bytes that its stream begins with. -/
theorem exists_before {rd : Reader Cursor} {bs rest : Bytes} (h : rd.source.bytes = bs ++ rest) :
    ∃ stop : Reader Cursor, rd = stop.before bs ∧ stop.source.bytes = rest := by
  refine ⟨{ rd with source := { rd.source with bytes := rest } }, ?_, rfl⟩
  simp [before, ← h]

theorem exists_before_of_le {rd : Reader Cursor} {n : Nat} (h : n ≤ rd.source.bytes.length) :
    ∃ (bs : Bytes) (stop : Reader Cursor), rd = stop.before bs ∧ bs.length = n := by
  obtain ⟨stop, hrd, -⟩ := exists_before (rd.source.bytes.take_append_drop n).symm
  exact ⟨_, stop, hrd, List.length_take_of_le h⟩

@[simp] theorem length_before (rd : Reader Cursor) (bs : Bytes) :
    (rd.before bs).source.bytes.length = bs.length + rd.source.bytes.length := List.length_append

/-- The reader inside a region, with so much of the current frame unread. -/
def inside (rd : Reader Cursor) (unread : Bytes) : Reader Cursor := { rd with region := some unread }

/-- The reader gives out the bytes next, and after them it is at `stop`: inside a region
whose last frame ends there if `framed`, and else outside of any region. -/
inductive Offers (stop : Reader Cursor) : (framed : Bool) → Reader Cursor → Bytes → Prop
  | plain (bs : Bytes) (hout : stop.region = none) : Offers stop false (stop.before bs) bs
  | framed (unread : Bytes) {wire later : Bytes} (hcut : Frame.Cut wire later) :
      Offers stop true ((stop.inside unread).before wire) (unread ++ later)

variable {stop rd : Reader Cursor}

/-- Outside of a region, a reader offers what stands between it and the stop. -/
theorem Offers.eq_before {bs : Bytes} (h : Offers stop false rd bs) : rd = stop.before bs := by
  cases h
  rfl

/-- A region that has nothing more to offer can be left; then the reader is at the stop. -/
theorem Offers.endCompressed {framed : Bool} (hout : stop.region = none)
    (h : Offers stop framed rd []) : rd.endCompressed = stop := by
  generalize hbs : ([] : Bytes) = bs at h
  cases h with
  | plain bs hout =>
    subst hbs
    simp [Reader.endCompressed, ← hout]
  | framed unread hcut =>
    obtain ⟨rfl, rfl⟩ := List.append_eq_nil_iff.mp hbs.symm
    rw [hcut.wire_eq_nil]
    simp [Reader.endCompressed, inside, ← hout]

end Reader

namespace Decoder

open Reader

variable {α β γ : Type} {stop rd : Reader Cursor}

/-! ## Taking bytes -/

theorem takeRaw_before (rd : Reader Cursor) (bs : Bytes) :
    takeRaw bs.length (rd.before bs) = .ok bs rd := by
  simp [takeRaw, Source.take, before, Cursor.take_append]

/-- A stream that ends before there are enough bytes fails as it ended, and nothing is left of it. -/
theorem takeRaw_short {n : Nat} (h : rd.source.bytes.length < n) :
    ∃ stop, takeRaw n rd = .error (rd.source.ending.error rd.limit) stop ∧ stop.source.bytes = [] := by
  obtain ⟨⟨bytes, ending⟩, limit, compression, region⟩ := rd
  refine ⟨⟨⟨[], ending⟩, limit, compression, region⟩, ?_, rfl⟩
  simp [takeRaw, Source.take, Cursor.take_short ending h]

theorem nextFrame_before {frame content : Bytes} (h : Frame.Holds frame content)
    (rd : Reader Cursor) : nextFrame (rd.before frame) = .ok content rd := by
  obtain ⟨lead, payload, header, rfl, hlead, hparse, hpayload, hdecode⟩ := h.exists_header
  refine bind_eq_ok.mpr ⟨lead, rd.before payload, ?_, ?_⟩
  · rw [← hlead, ← before_before, takeRaw_before]
  refine bind_eq_ok.mpr ⟨header, rd.before payload, ofFrame_eq_ok.mpr ⟨hparse, rfl⟩, ?_⟩
  refine bind_eq_ok.mpr ⟨payload, rd, ?_, ofFrame_eq_ok.mpr ⟨hdecode, rfl⟩⟩
  rw [hpayload, takeRaw_before]

/-- What has been taken off the source stood in front of what is left. -/
theorem takeRaw_eq_ok {n : Nat} {rd rd' : Reader Cursor} {bs : Bytes}
    (h : takeRaw n rd = .ok bs rd') : bs.length = n ∧ rd = rd'.before bs := by
  simp only [takeRaw, Source.take, Cursor.take, List.splitAt_eq] at h
  split at h
  · next taken source htake =>
    split at htake
    · next hlength =>
      cases htake
      cases h
      exact ⟨hlength, by simp [before]⟩
    · cases htake
  · cases h

/-- **A frame can be read just where a valid one stands.** -/
theorem nextFrame_eq_ok_iff {rd rd' : Reader Cursor} {content : Bytes} :
    nextFrame rd = .ok content rd' ↔ ∃ frame, Frame.Holds frame content ∧ rd = rd'.before frame := by
  constructor
  · intro h
    obtain ⟨lead, rd₁, hlead, h⟩ := bind_eq_ok.mp h
    obtain ⟨header, rd₂, hheader, h⟩ := bind_eq_ok.mp h
    obtain ⟨payload, rd₃, hpayload, hcontent⟩ := bind_eq_ok.mp h
    obtain ⟨hparse, rfl⟩ := ofFrame_eq_ok.mp hheader
    obtain ⟨hdecode, rfl⟩ := ofFrame_eq_ok.mp hcontent
    obtain ⟨hlength, rfl⟩ := takeRaw_eq_ok hlead
    obtain ⟨-, rfl⟩ := takeRaw_eq_ok hpayload
    exact ⟨lead ++ payload, .of_decode hlength hparse hdecode, before_before ..⟩
  · rintro ⟨frame, hframe, rfl⟩
    exact nextFrame_before hframe rd'

/-- Frames are pulled until there are enough bytes; the last one may be used up or not. -/
theorem fill_offers (stop : Reader Cursor) {wire content : Bytes} (hcut : Frame.Cut wire content) (taken : List Bytes)
    {n : Nat} (hpos : 0 < n) (hn : n ≤ content.length) :
    ∃ rd, fill n taken ((stop.inside []).before wire) =
        .ok (taken.reverse.flatten ++ content.take n) rd ∧
      Offers stop true rd (content.drop n) := by
  induction hcut generalizing n taken with
  | nil =>
    rw [List.length_nil] at hn
    omega
  | @cons frame piece wire content hframe hpiece hrest ih =>
    have hnext := nextFrame_before hframe ((stop.inside []).before wire)
    rw [before_before] at hnext
    rw [fill_of_ok hnext]
    by_cases hle : n ≤ piece.length
    · refine ⟨(stop.inside (piece.drop n)).before wire, ?_, ?_⟩
      · rw [if_pos hle, List.take_append_of_le_length hle, List.reverse_cons,
          List.flatten_append, List.flatten_singleton]
        rfl
      · rw [List.drop_append_of_le_length hle]
        exact .framed (piece.drop n) hrest
    · rw [if_neg hle]
      -- The frame is used up, and the rest of the bytes comes from those behind it.
      have hlater : n - piece.length ≤ content.length := by
        rw [List.length_append] at hn
        omega
      obtain ⟨rd, hfill, hoffers⟩ := ih (piece :: taken) (by omega) hlater
      have htake : (piece ++ content).take n = piece ++ content.take (n - piece.length) := by
        rw [List.take_append, List.take_of_length_le (by omega)]
      have hdrop : (piece ++ content).drop n = content.drop (n - piece.length) := by
        rw [List.drop_append, List.drop_eq_nil_of_le (by omega), List.nil_append]
      refine ⟨rd, ?_, hdrop ▸ hoffers⟩
      rw [List.reverse_cons, List.flatten_append, List.flatten_singleton, List.append_assoc,
        ← htake] at hfill
      exact hfill

/-- **Taking bytes gives those that are offered**, in one piece, however they were cut. -/
theorem take_offers {framed : Bool} {bs rest : Bytes} (h : Offers stop framed rd (bs ++ rest)) :
    ∃ rd', take bs.length rd = .ok bs rd' ∧ Offers stop framed rd' rest := by
  generalize hall : bs ++ rest = all at h
  cases h with
  | plain all hout =>
    subst hall
    refine ⟨stop.before rest, ?_, .plain rest hout⟩
    rw [← before_before, take, region_before, region_before, hout]
    exact takeRaw_before _ _
  | @framed unread wire later hcut =>
    rcases List.append_eq_append_iff.mp hall with ⟨kept, rfl, rfl⟩ | ⟨missing, rfl, rfl⟩
    · -- The current frame still holds all that is asked for.
      refine ⟨_, ?_, .framed kept hcut⟩
      simp [take, before, inside]
    · by_cases hmissing : missing = []
      · subst hmissing
        refine ⟨_, ?_, .framed [] hcut⟩
        simp [take, before, inside]
      · have hpos : 0 < missing.length := List.length_pos_iff.mpr hmissing
        obtain ⟨rd', hfill, hoffers⟩ := fill_offers stop hcut [unread] hpos (by simp)
        refine ⟨rd', ?_, by simpa using hoffers⟩
        have hshort : ¬ unread.length = (unread ++ missing).length := by
          rw [List.length_append]
          omega
        have htake : unread.take (unread ++ missing).length = unread :=
          List.take_of_length_le (by simp)
        have hmissing : (unread ++ missing).length - unread.length = missing.length := by simp
        have hinside : take (unread ++ missing).length ((stop.inside unread).before wire) =
            fill missing.length [unread] ((stop.inside []).before wire) := by
          simp only [take, region_before, inside, List.splitAt_eq, htake, if_neg hshort, hmissing]
          rfl
        rw [hinside, hfill]
        simp

/-! ## Decoders and what they read -/

/-- Wherever `bs` is offered, the decoder yields `a`, and what follows `bs` is offered next. -/
structure Reads (d : Decoder Cursor α) (bs : Bytes) (a : α) : Prop where
  of_offers : ∀ {stop rd : Reader Cursor} {framed : Bool} {rest : Bytes},
    Offers stop framed rd (bs ++ rest) → ∃ rd', d rd = .ok a rd' ∧ Offers stop framed rd' rest

namespace Reads

variable {d : Decoder Cursor α} {f : α → Decoder Cursor β} {first second bs : Bytes} {a : α} {b : β}

protected theorem pure (a : α) : Reads (pure a) [] a := ⟨fun h => ⟨_, rfl, h⟩⟩

protected theorem bind (hd : Reads d first a) (hf : Reads (f a) second b) :
    Reads (d >>= f) (first ++ second) b := by
  constructor
  intro stop rd framed rest h
  rw [List.append_assoc] at h
  obtain ⟨rd₁, hd, h₁⟩ := hd.of_offers h
  obtain ⟨rd₂, hf, h₂⟩ := hf.of_offers h₁
  exact ⟨rd₂, bind_eq_ok.mpr ⟨a, rd₁, hd, hf⟩, h₂⟩

/-- A last step that reads nothing. -/
theorem bind_last (hd : Reads d bs a) (hf : Reads (f a) [] b) : Reads (d >>= f) bs b := by
  have := hd.bind hf
  rwa [List.append_nil] at this

protected theorem take (bs : Bytes) : Reads (take bs.length) bs bs := ⟨take_offers⟩

theorem ofIf {c : Prop} [Decidable c] {x y : Decoder Cursor α} (hc : c) (hx : Reads x bs a) :
    Reads (if c then x else y) bs a := by
  rwa [if_pos hc]

theorem ofElse {c : Prop} [Decidable c] {x y : Decoder Cursor α} (hc : ¬ c) (hy : Reads y bs a) :
    Reads (if c then x else y) bs a := by
  rwa [if_neg hc]

/-- Outside of a region, a decoder gets from one end of its bytes to the other. -/
theorem eq_ok_before (hd : Reads d bs a) (hout : stop.region = none) :
    d (stop.before bs) = .ok a stop := by
  have hoffers : Offers stop false (stop.before bs) (bs ++ []) := by
    rw [List.append_nil]
    exact .plain bs hout
  obtain ⟨rd', hd, h⟩ := hd.of_offers hoffers
  rw [hd, h.eq_before, before_nil]

/-- Outside of a region, what comes behind a decoder goes on behind its bytes. -/
theorem bind_before (hd : Reads d bs a) (hout : stop.region = none) (f : α → Decoder Cursor β)
    (rest : Bytes) : (d >>= f) (stop.before (bs ++ rest)) = f a (stop.before rest) := by
  have hread : d ((stop.before rest).before bs) = .ok a (stop.before rest) := hd.eq_ok_before hout
  rw [before_before] at hread
  show EStateM.bind d f _ = _
  rw [EStateM.bind, hread]

end Reads

/-! ## Items up to an end -/

/-- Items are read one after another up to what ends them. -/
inductive Gathers (item : Decoder Cursor (Option α)) : Reader Cursor → List α → Reader Cursor → Prop
  | ended {rd rd' : Reader Cursor} (hread : item rd = .ok none rd') : Gathers item rd [] rd'
  | more {rd mid rd' : Reader Cursor} {a : α} {as : List α} (hread : item rd = .ok (some a) mid)
      (h : Gathers item mid as rd') : Gathers item rd (a :: as) rd'

/-- What is gathered depends on the bytes alone. -/
theorem Gathers.unique {item : Decoder Cursor (Option α)} {rd₁ rd₂ : Reader Cursor} {as₁ as₂ : List α}
    (h₁ : Gathers item rd as₁ rd₁) (h₂ : Gathers item rd as₂ rd₂) : as₁ = as₂ ∧ rd₁ = rd₂ := by
  induction h₁ generalizing as₂ with
  | ended hread₁ =>
    cases h₂ with
    | ended hread₂ =>
      rw [hread₁] at hread₂
      cases hread₂
      exact ⟨rfl, rfl⟩
    | more hread₂ =>
      rw [hread₁] at hread₂
      cases hread₂
  | more hread₁ _ ih =>
    cases h₂ with
    | ended hread₂ =>
      rw [hread₁] at hread₂
      cases hread₂
    | more hread₂ hrest =>
      rw [hread₁] at hread₂
      cases hread₂
      obtain ⟨has, hrd⟩ := ih hrest
      exact ⟨has ▸ rfl, hrd⟩

/-- So all that can be gathered is what has been. -/
theorem Gathers.iff {item : Decoder Cursor (Option α)} {rd' : Reader Cursor} {as : List α}
    (h : Gathers item rd as rd') {as' : List α} {rd'' : Reader Cursor} :
    Gathers item rd as' rd'' ↔ as' = as ∧ rd'' = rd' := by
  constructor
  · exact fun h' => h'.unique h
  · rintro ⟨rfl, rfl⟩
    exact h

end Decoder

namespace Builder

open Reader

variable {α β γ : Type}

/-- Wherever `bs` is offered, the builder turns `start` into `done`, and what follows `bs` is
offered next. -/
structure Builds (b : Builder Cursor β α) (start : β) (bs : Bytes) (a : α) (done : β) : Prop where
  of_offers : ∀ {stop rd : Reader Cursor} {framed : Bool} {rest : Bytes},
    Offers stop framed rd (bs ++ rest) →
      ∃ rd', b (rd, start) = .ok a (rd', done) ∧ Offers stop framed rd' rest

namespace Builds

variable {start middle done : β} {first second bs : Bytes} {a : α} {c : γ}

protected theorem pure (a : α) (start : β) : Builds (pure a) start [] a start :=
  ⟨fun h => ⟨_, rfl, h⟩⟩

protected theorem bind {x : Builder Cursor β α} {f : α → Builder Cursor β γ}
    (hx : Builds x start first a middle) (hf : Builds (f a) middle second c done) :
    Builds (x >>= f) start (first ++ second) c done := by
  constructor
  intro stop rd framed rest h
  rw [List.append_assoc] at h
  obtain ⟨rd₁, hx, h₁⟩ := hx.of_offers h
  obtain ⟨rd₂, hf, h₂⟩ := hf.of_offers h₁
  exact ⟨rd₂, bind_eq_ok.mpr ⟨a, (rd₁, middle), hx, hf⟩, h₂⟩

/-- A first step that reads nothing. -/
theorem bind_first {x : Builder Cursor β α} {f : α → Builder Cursor β γ}
    (hx : Builds x start [] a middle) (hf : Builds (f a) middle bs c done) :
    Builds (x >>= f) start bs c done := hx.bind hf

/-- A last step that reads nothing. -/
theorem bind_last {x : Builder Cursor β α} {f : α → Builder Cursor β γ}
    (hx : Builds x start bs a middle) (hf : Builds (f a) middle [] c done) :
    Builds (x >>= f) start bs c done := by
  have := hx.bind hf
  rwa [List.append_nil] at this

protected theorem reading {d : Decoder Cursor α} (hd : Decoder.Reads d bs a) (start : β) :
    Builds (reading d) start bs a start := by
  constructor
  intro stop rd framed rest h
  obtain ⟨rd', hd, h'⟩ := hd.of_offers h
  exact ⟨rd', by simp [Builder.reading, hd], h'⟩

protected theorem put (start done : β) : Builds (put done) start [] () done :=
  ⟨fun h => ⟨_, rfl, h⟩⟩

protected theorem update (f : β → β) (start : β) : Builds (update f) start [] () (f start) :=
  ⟨fun h => ⟨_, rfl, h⟩⟩

protected theorem within {wrap : γ → β} {start' done' : γ} {part : Builder Cursor γ α}
    (h : Builds part start' bs a done') (start : β) :
    Builds (within wrap start' part) start bs a (wrap done') := by
  constructor
  intro stop rd framed rest hoffers
  obtain ⟨rd', hpart, h'⟩ := h.of_offers hoffers
  exact ⟨rd', by simp [Builder.within, hpart], h'⟩

protected theorem fresh {whole : Builder Cursor β Unit} (h : Builds whole start bs () done) :
    Decoder.Reads (fresh start whole) bs done := by
  constructor
  intro stop rd framed rest hoffers
  obtain ⟨rd', hwhole, h'⟩ := h.of_offers hoffers
  exact ⟨rd', by simp [Builder.fresh, hwhole], h'⟩

/-- Items are read one after another, and each is pushed onto the array. -/
protected theorem pushes {item : Decoder Cursor α} (encode : γ → Bytes) (value : γ → α)
    (items : List γ) (hitem : ∀ c ∈ items, Decoder.Reads item (encode c) (value c))
    (start : Array α) :
    Builds (pushes item items.length) start (items.flatMap encode) ()
      (start ++ (items.map value).toArray) := by
  induction items generalizing start with
  | nil =>
    have hnone : start ++ (([] : List γ).map value).toArray = start := by simp
    rw [hnone]
    exact Builds.pure () start
  | cons c items ih =>
    constructor
    intro stop rd framed rest h
    rw [List.flatMap_cons, List.append_assoc] at h
    obtain ⟨rd₁, hfirst, h₁⟩ := (hitem c (List.mem_cons_self ..)).of_offers h
    obtain ⟨rd₂, hrest, h₂⟩ := (ih (fun c hc => hitem c (List.mem_cons_of_mem _ hc))
      (start.push (value c))).of_offers h₁
    refine ⟨rd₂, ?_, h₂⟩
    simp only [List.length_cons, Builder.pushes, hfirst, hrest]
    simp

/-- **What is read inside a region is read off any cut of it**, and the region is left behind. -/
protected theorem compressed {x : Builder Cursor β α} (h : Builds x start bs a done) {stop : Reader Cursor}
    (hout : stop.region = none) {wire : Bytes}
    (hwire : if stop.compression then Frame.Cut wire bs else wire = bs) :
    compressed x (stop.before wire, start) = .ok a (stop, done) := by
  have hoffers : Offers stop stop.compression (stop.before wire).beginCompressed (bs ++ []) := by
    rw [List.append_nil]
    cases hc : stop.compression with
    | false =>
      rw [hc, if_neg Bool.false_ne_true] at hwire
      subst hwire
      have hbegin : (stop.before wire).beginCompressed = stop.before wire := by
        simp [beginCompressed, before, hc]
      rw [hbegin]
      exact .plain wire hout
    | true =>
      rw [hc, if_pos rfl] at hwire
      have hbegin : (stop.before wire).beginCompressed =
          (stop.inside []).before wire := by
        simp [beginCompressed, before, inside, hc]
      rw [hbegin]
      exact .framed [] hwire
  obtain ⟨rd', hx, h'⟩ := h.of_offers hoffers
  simp [Builder.compressed, hx, h'.endCompressed hout]

end Builds

end Builder

end ColumnWire
