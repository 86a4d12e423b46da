import ColumnWire.Proofs.Stream.Outcome
import ColumnWire.Proofs.Stream.Transparency

/-!
# However the bytes arrive

A stream arrives in pieces, each of which is put into the same store over what was there before. None of
it can be told from outside: readers over sources that give out the same bytes cannot be told apart by
what is called on them (`Reader.carryOut_alike`), and a buffered source gives out the same bytes as the
plain stream of what is unread (`Buffered.simulates`). This holds from every position on, also from one
that a failed call has left. The whole of it is `arrivals_unseen`.
-/
namespace ColumnWire

variable {σ τ α β : Type}

/-! ## Sources that give out the same bytes -/

/-- Related sources give out the same bytes or end in the same way, and are still related. -/
structure Source.Simulation [Source σ] [Source τ] (R : σ → τ → Prop) : Prop where
  take : ∀ {s : σ} {t : τ} (n : Nat), R s t →
    (Source.take n s).1 = (Source.take n t).1 ∧ R (Source.take n s).2 (Source.take n t).2

/-- Two readers are at the same position of related sources. -/
structure Reader.Alike (R : σ → τ → Prop) (rd : Reader σ) (rd' : Reader τ) : Prop where
  source : R rd.source rd'.source
  limit : rd.limit = rd'.limit
  compression : rd.compression = rd'.compression
  region : rd.region = rd'.region

namespace Reader.Alike

variable {R : σ → τ → Prop} {rd : Reader σ} {rd' : Reader τ}

theorem withRegion (h : Alike R rd rd') (region : Option Bytes) :
    Alike R { rd with region } { rd' with region } :=
  ⟨h.source, h.limit, h.compression, rfl⟩

theorem beginCompressed (h : Alike R rd rd') : Alike R rd.beginCompressed rd'.beginCompressed := by
  unfold Reader.beginCompressed
  by_cases hon : rd.compression = true
  · rw [if_pos hon, if_pos (h.compression.symm.trans hon)]
    exact h.withRegion (some [])
  · rw [if_neg hon, if_neg fun hon' => hon (h.compression.trans hon')]
    exact h

end Reader.Alike

open Reader (Alike)

/-- The same comes of both, and the readers they leave are alike. -/
inductive SameOutcome (R : σ → τ → Prop) :
    EStateM.Result Error (Reader σ) α → EStateM.Result Error (Reader τ) α → Prop
  | ok {a : α} {rd : Reader σ} {rd' : Reader τ} (h : Alike R rd rd') : SameOutcome R (.ok a rd) (.ok a rd')
  | error {e : Error} {rd : Reader σ} {rd' : Reader τ} (h : Alike R rd rd') :
    SameOutcome R (.error e rd) (.error e rd')

/-- On readers that are alike, the same comes of both decoders. -/
structure SameReading (R : σ → τ → Prop) (d : Decoder σ α) (d' : Decoder τ α) : Prop where
  outcome : ∀ {rd : Reader σ} {rd' : Reader τ}, Alike R rd rd' → SameOutcome R (d rd) (d' rd')

namespace SameReading

variable {R : σ → τ → Prop}

theorem ofPure (a : α) : SameReading R (pure a : Decoder σ α) (pure a) := ⟨.ok⟩

theorem ofThrow (e : Error) : SameReading R (throw e : Decoder σ α) (throw e) := ⟨.error⟩

theorem bind {x : Decoder σ α} {x' : Decoder τ α} {f : α → Decoder σ β} {f' : α → Decoder τ β}
    (hx : SameReading R x x') (hf : ∀ a, SameReading R (f a) (f' a)) :
    SameReading R (x >>= f) (x' >>= f') := by
  constructor
  intro rd rd' h
  have hfirst := hx.outcome h
  show SameOutcome R (EStateM.bind x f rd) (EStateM.bind x' f' rd')
  unfold EStateM.bind
  generalize x rd = r at hfirst ⊢
  generalize x' rd' = r' at hfirst ⊢
  cases hfirst with
  | ok hnext => exact (hf _).outcome hnext
  | error hnext => exact .error hnext

theorem ofIte {c : Prop} [Decidable c] {x y : Decoder σ α} {x' y' : Decoder τ α}
    (hx : SameReading R x x') (hy : SameReading R y y') :
    SameReading R (if c then x else y) (if c then x' else y') := by
  split
  · exact hx
  · exact hy

end SameReading

namespace Decoder

variable [Source σ] [Source τ] {R : σ → τ → Prop}

theorem same_takeRaw (hR : Source.Simulation R) (n : Nat) : SameReading R (takeRaw n) (takeRaw n) := by
  constructor
  intro rd rd' h
  obtain ⟨hresult, hsource⟩ := hR.take n h.source
  unfold takeRaw
  generalize Source.take n rd.source = r at hresult hsource
  generalize Source.take n rd'.source = r' at hresult hsource
  obtain ⟨result, s⟩ := r
  obtain ⟨_, t⟩ := r'
  cases hresult
  cases result with
  | ok bs => exact .ok ⟨hsource, h.limit, h.compression, h.region⟩
  | error ending =>
    rw [h.limit]
    exact .error ⟨hsource, rfl, h.compression, h.region⟩

omit [Source σ] [Source τ] in
theorem same_ofFrame (r : Except FrameFault α) : SameReading R (ofFrame r) (ofFrame r) := by
  cases r with
  | ok a => exact .ofPure a
  | error fault => exact .ofThrow _

theorem same_nextFrame (hR : Source.Simulation R) : SameReading R nextFrame nextFrame :=
  (same_takeRaw hR _).bind fun _ => (same_ofFrame _).bind fun _ =>
    (same_takeRaw hR _).bind fun _ => same_ofFrame _

/-- Pulling frames goes through the same frames. -/
theorem same_fill (hR : Source.Simulation R) (n : Nat) (taken : List Bytes) :
    SameReading R (fill n taken) (fill n taken) := by
  constructor
  intro rd rd' h
  have hframe := (same_nextFrame hR).outcome h
  generalize hnext' : nextFrame rd' = r' at hframe
  fun_induction fill n taken rd generalizing rd' r' with
  | case1 n taken rd e s hnext =>
    rw [hnext] at hframe
    cases hframe with
    | error hs =>
      rw [fill_of_error hnext']
      exact .error hs
  | case2 n taken rd content s hnext hle =>
    rw [hnext] at hframe
    cases hframe with
    | ok hs =>
      rw [fill_of_ok hnext', if_pos hle]
      exact .ok (hs.withRegion _)
  | case3 n taken rd content s hnext hle ih =>
    rw [hnext] at hframe
    cases hframe with
    | ok hs =>
      have hused := hs.withRegion (some [])
      rw [fill_of_ok hnext', if_neg hle]
      exact ih hused _ rfl ((same_nextFrame hR).outcome hused)

/-- **Taking bytes**, off the source or out of frames. -/
theorem same_take (hR : Source.Simulation R) (n : Nat) : SameReading R (take n) (take n) := by
  constructor
  intro rd rd' h
  simp only [take, ← h.region]
  cases rd.region with
  | none => exact (same_takeRaw hR n).outcome h
  | some unread =>
    simp only [List.splitAt_eq]
    split
    · exact .ok (h.withRegion _)
    · exact (same_fill hR _ _).outcome (h.withRegion _)

theorem same_byte (hR : Source.Simulation R) : SameReading R byte byte :=
  (same_take hR 1).bind fun _ => .ofPure _

theorem same_word (hR : Source.Simulation R) (n : Nat) : SameReading R (word n) (word n) :=
  (same_take hR n).bind fun _ => .ofPure _

theorem same_varintFrom (hR : Source.Simulation R) (digitsLeft value weight : Nat) :
    SameReading R (varintFrom digitsLeft value weight) (varintFrom digitsLeft value weight) := by
  induction digitsLeft generalizing value weight with
  | zero => exact .ofThrow _
  | succ digitsLeft ih =>
    exact (same_byte hR).bind fun b => .ofIte (.ofThrow _) (.ofIte (.ofPure _) (ih _ _))

theorem same_bytes (hR : Source.Simulation R) (n : Nat) : SameReading R (bytes n) (bytes n) :=
  .ofIte (.ofThrow _) (same_take hR n)

theorem same_textBytes (hR : Source.Simulation R) : SameReading R textBytes textBytes :=
  (same_varintFrom hR _ _ _).bind fun _ => .ofIte (.ofThrow _) (same_take hR _)

end Decoder

theorem ReadCall.same_run [Source σ] [Source τ] {R : σ → τ → Prop} (hR : Source.Simulation R)
    (c : ReadCall) : SameReading R c.run c.run := by
  have hword (n : Nat) := Decoder.same_word hR n
  cases c with
  | byte => exact Decoder.same_byte hR
  | bool => exact (Decoder.same_byte hR).bind fun _ => .ofPure _
  | int8 => exact (Decoder.same_byte hR).bind fun _ => .ofPure _
  | uint16 => exact (hword 2).bind fun _ => .ofPure _
  | int16 => exact ((hword 2).bind fun _ => .ofPure _).bind fun _ => .ofPure _
  | uint32 | float32 => exact (hword 4).bind fun _ => .ofPure _
  | int32 => exact ((hword 4).bind fun _ => .ofPure _).bind fun _ => .ofPure _
  | uint64 | float64 => exact (hword 8).bind fun _ => .ofPure _
  | int64 => exact ((hword 8).bind fun _ => .ofPure _).bind fun _ => .ofPure _
  | varint => exact Decoder.same_varintFrom hR _ _ _
  | bytes n => exact Decoder.same_bytes hR n
  | textBytes => exact Decoder.same_textBytes hR
  | text => exact (Decoder.same_textBytes hR).bind fun _ => .ofPure _

/-! ## Calls that go on after failures -/

/-- One call on a reader, in whatever state those before it have left it. -/
inductive ReaderCall where
  /-- Take exactly so many bytes. -/
  | take (n : Nat)
  /-- Read a single value. -/
  | value (c : ReadCall)
  | beginCompressed
  | endCompressed
  /-- Ask whether compression is on. -/
  | compression
  | enableCompression (enabled : Bool)
  /-- Wait so long for more bytes from now on. -/
  | await (limit : Option Duration)
deriving Repr, DecidableEq

namespace ReaderCall

/-- What a call gives. -/
abbrev Value : ReaderCall → Type
  | .take _ => Bytes
  | .value c => c.Value
  | .compression => Bool
  | .beginCompressed | .endCompressed | .enableCompression _ | .await _ => Unit

/-- Carry a call out. -/
def run [Source σ] : (c : ReaderCall) → Decoder σ c.Value
  | .take n => Decoder.take n
  | .value c => c.run
  | .beginCompressed => fun rd => .ok () rd.beginCompressed
  | .endCompressed => fun rd => .ok () rd.endCompressed
  | .compression => fun rd => .ok rd.compression rd
  | .enableCompression enabled => fun rd => .ok () { rd with compression := enabled }
  | .await limit => fun rd => .ok () { rd with limit }

theorem same_run [Source σ] [Source τ] {R : σ → τ → Prop} (hR : Source.Simulation R) (c : ReaderCall) :
    SameReading R c.run c.run := by
  cases c with
  | take n => exact Decoder.same_take hR n
  | value c => exact c.same_run hR
  | beginCompressed => exact ⟨fun h => .ok h.beginCompressed⟩
  | endCompressed => exact ⟨fun h => .ok (h.withRegion none)⟩
  | compression =>
    constructor
    intro rd rd' h
    simp only [run, h.compression]
    exact .ok h
  | enableCompression enabled => exact ⟨fun h => .ok ⟨h.source, h.limit, rfl, h.region⟩⟩
  | await limit => exact ⟨fun h => .ok ⟨h.source, rfl, h.compression, h.region⟩⟩

end ReaderCall

/-- A call and what came of it. -/
structure Answer where
  call : ReaderCall
  outcome : Except Error call.Value

namespace Reader

variable [Source σ] [Source τ]

/-- Carry a call out, and go on with the reader that it leaves. -/
def answer (c : ReaderCall) (rd : Reader σ) : Answer × Reader σ :=
  match c.run rd with
  | .ok a rd => (⟨c, .ok a⟩, rd)
  | .error e rd => (⟨c, .error e⟩, rd)

/-- Carry calls out one after another, whatever comes of them. -/
def carryOut : List ReaderCall → Reader σ → List Answer × Reader σ
  | [], rd => ([], rd)
  | c :: calls, rd =>
    let (a, rd) := rd.answer c
    let (later, rd) := carryOut calls rd
    (a :: later, rd)

variable {R : σ → τ → Prop} {rd : Reader σ} {rd' : Reader τ}

theorem answer_alike (hR : Source.Simulation R) (c : ReaderCall) (h : Alike R rd rd') :
    (rd.answer c).1 = (rd'.answer c).1 ∧ Alike R (rd.answer c).2 (rd'.answer c).2 := by
  have hsame := (c.same_run hR).outcome h
  unfold answer
  generalize c.run rd = r at hsame
  generalize c.run rd' = r' at hsame
  cases hsame with
  | ok hnext => exact ⟨rfl, hnext⟩
  | error hnext => exact ⟨rfl, hnext⟩

/-- **Readers that are alike cannot be told apart.** -/
theorem carryOut_alike (hR : Source.Simulation R) (calls : List ReaderCall) (h : Alike R rd rd') :
    (rd.carryOut calls).1 = (rd'.carryOut calls).1 ∧
      Alike R (rd.carryOut calls).2 (rd'.carryOut calls).2 := by
  induction calls generalizing rd rd' with
  | nil => exact ⟨rfl, h⟩
  | cons c calls ih =>
    obtain ⟨hanswer, hnext⟩ := answer_alike hR c h
    obtain ⟨hlater, hlast⟩ := ih hnext
    exact ⟨List.cons_eq_cons.mpr ⟨hanswer, hlater⟩, hlast⟩

end Reader

/-! ## A window over a store -/

/-- What is asked for comes from the front first, and then from behind it. -/
theorem Cursor.take_append_of_le {n : Nat} {bs : Bytes} (rest : Bytes) (ending : Ending) (h : bs.length ≤ n) :
    Cursor.take n ⟨bs ++ rest, ending⟩ =
      ((Cursor.take (n - bs.length) ⟨rest, ending⟩).1.map (bs ++ ·),
        (Cursor.take (n - bs.length) ⟨rest, ending⟩).2) := by
  simp only [Cursor.take, List.splitAt_eq, List.take_append, List.take_of_length_le h, List.drop_append,
    List.drop_of_length_le h, List.nil_append, List.length_append]
  by_cases hn : (rest.take (n - bs.length)).length = n - bs.length
  · rw [if_pos hn, if_pos (by omega)]
    rfl
  · rw [if_neg hn, if_neg (by omega)]
    rfl

theorem Cursor.take_suffix (n : Nat) (c : Cursor) : (Cursor.take n c).2.bytes <:+ c.bytes := by
  simp only [Cursor.take, List.splitAt_eq]
  split
  · exact List.drop_suffix n c.bytes
  · exact List.nil_suffix

namespace Buffered

/-- All that is unread, as a plain stream. -/
def cursor (b : Buffered) : Cursor := ⟨b.window ++ b.arriving.flatten, b.ending⟩

/-- The window lies in a store of full size, and whatever arrives fits into it. -/
structure Sound (b : Buffered) : Prop where
  size_eq : b.store.size = capacity
  start_le : b.start ≤ b.stop
  fits : ∀ piece ∈ b.arriving, 0 < piece.length ∧ piece.length ≤ capacity

theorem length_window (b : Buffered) : b.window.length = b.stop - b.start := by
  have hstop := b.stop_le
  simp only [window, Array.length_toList, Array.size_extract]
  omega

/-- The part that a take copies is the front of the window. -/
theorem toList_extract_start {b : Buffered} {k : Nat} (h : k ≤ b.stop - b.start) :
    (b.store.extract b.start (b.start + k)).toList = b.window.take k := by
  simp only [window, Array.toList_extract, List.extract_eq_take_drop, List.take_take]
  congr 1
  omega

theorem window_skip (k : Nat) (b : Buffered) : (b.skip k).window = b.window.drop k := by
  simp only [window, skip, Array.toList_extract, List.extract_eq_take_drop, List.drop_take, List.drop_drop,
    Nat.sub_add_eq]

/-- An arrival is all of the new window; nothing of it is left over from before. -/
theorem window_refill (b : Buffered) (piece : Bytes) (later : List Bytes) :
    (b.refill piece later).window = piece := by
  simp [window, refill]

/-- **Taking from the window and then from arrivals** is taking from all that is unread. -/
theorem takeFrom_eq (n : Nat) (taken : List Bytes) (b : Buffered) :
    (takeFrom n taken b).1 = (Cursor.take n b.cursor).1.map (taken.reverse.flatten ++ ·) ∧
      (takeFrom n taken b).2.cursor = (Cursor.take n b.cursor).2 := by
  fun_induction takeFrom n taken b with
  | case1 n taken b k part hk =>
    have hwindow := b.length_window
    have hkn : k = n := hk
    have hlength : (b.window.take n).length = n := by
      rw [List.length_take]
      omega
    have hpart : part = b.window.take n := by
      rw [← hkn]
      exact toList_extract_start (by omega)
    have htake := Cursor.take_append (b.window.take n) (b.window.drop n ++ b.arriving.flatten) b.ending
    rw [← List.append_assoc, List.take_append_drop, hlength] at htake
    rw [cursor, htake, hpart, hkn]
    constructor
    · simp [Except.map]
    · rw [cursor, window_skip]
      rfl
  | case2 n taken b k hk harr =>
    have hwindow := b.length_window
    have hnone : b.window ++ b.arriving.flatten = b.window := by
      rw [harr, List.flatten_nil, List.append_nil]
    rw [cursor, hnone, Cursor.take_short b.ending (by omega)]
    refine ⟨rfl, ?_⟩
    rw [cursor, window_skip, List.drop_of_length_le (by omega)]
    simp only [skip, harr, List.flatten_nil, List.append_nil]
  | case3 n taken b k part hk piece later harr ih =>
    have hwindow := b.length_window
    have hk' : k = b.window.length := by omega
    have hpart : part = b.window := by
      rw [show part = b.window.take k from toList_extract_start (by omega), hk', List.take_length]
    have hnext : ((b.skip k).refill piece later).cursor = ⟨piece ++ later.flatten, b.ending⟩ := by
      rw [cursor, window_refill]
      rfl
    have hall : b.window ++ b.arriving.flatten = b.window ++ (piece ++ later.flatten) := by
      rw [harr, List.flatten_cons]
    rw [hnext] at ih
    rw [cursor, hall, Cursor.take_append_of_le _ b.ending (by omega), ← hk']
    refine ⟨ih.1.trans ?_, ih.2⟩
    cases (Cursor.take (n - k) ⟨piece ++ later.flatten, b.ending⟩).1 with
    | ok bs => simp [Except.map, hpart]
    | error e => rfl

/-- A take leaves the store at its size and the window in it. -/
theorem Sound.takeFrom {b : Buffered} (h : b.Sound) (n : Nat) (taken : List Bytes) :
    (takeFrom n taken b).2.Sound := by
  have hskip {k : Nat} {b : Buffered} (hk : k ≤ b.stop - b.start) (h : b.Sound) : (b.skip k).Sound :=
    ⟨h.size_eq, by have := h.start_le; simp only [skip]; omega, h.fits⟩
  fun_induction Buffered.takeFrom n taken b with
  | case1 n taken b k part hk => exact hskip (Nat.min_le_right ..) h
  | case2 n taken b k hk harr => exact hskip (Nat.min_le_right ..) h
  | case3 n taken b k part hk piece later harr ih =>
    have hfits := h.fits piece (harr ▸ List.mem_cons_self)
    refine ih ⟨?_, Nat.zero_le _, fun p hp => h.fits p (harr ▸ List.mem_cons_of_mem _ hp)⟩
    have hsize := h.size_eq
    simp only [refill, skip, Array.size_append, List.size_toArray, Array.size_extract]
    omega

/-- A buffered source gives out what the plain stream of its unread bytes does. -/
theorem simulates : Source.Simulation fun (b : Buffered) (c : Cursor) => b.cursor = c where
  take := by
    rintro b c n rfl
    obtain ⟨hresult, hcursor⟩ := takeFrom_eq n [] b
    refine ⟨hresult.trans ?_, hcursor⟩
    show (Cursor.take n b.cursor).1.map ([] ++ ·) = (Cursor.take n b.cursor).1
    cases (Cursor.take n b.cursor).1 <;> rfl

/-- A source whose unread bytes are the end of a whole stream. -/
structure Shows (stream : Bytes) (b : Buffered) (c : Cursor) : Prop where
  sound : b.Sound
  cursor_eq : b.cursor = c
  suffix : c.bytes <:+ stream

theorem shows_simulates (stream : Bytes) : Source.Simulation (Shows stream) where
  take n h := by
    obtain ⟨hresult, hcursor⟩ := simulates.take n h.cursor_eq
    exact ⟨hresult, h.sound.takeFrom n [], hcursor, (Cursor.take_suffix n _).trans h.suffix⟩

/-- Pieces that fit into the store are not cut. -/
theorem arriving_ofPieces {pieces : List Bytes} (ending : Ending)
    (h : ∀ piece ∈ pieces, 0 < piece.length ∧ piece.length ≤ capacity) :
    (ofPieces pieces ending).arriving = pieces := by
  have hwhole (piece : Bytes) (hpiece : 0 < piece.length ∧ piece.length ≤ capacity) :
      Bytes.chunks capacity piece = [piece] := by
    cases piece with
    | nil => exact absurd hpiece.1 (Nat.lt_irrefl 0)
    | cons b bs =>
      have hle : bs.length ≤ capacity - 1 := Nat.le_sub_one_of_lt hpiece.2
      rw [Bytes.chunks_cons, List.take_of_length_le hpiece.2, List.drop_of_length_le hle, Bytes.chunks_nil]
  show pieces.flatMap (Bytes.chunks capacity) = pieces
  induction pieces with
  | nil => rfl
  | cons piece pieces ih =>
    rw [List.flatMap_cons, hwhole piece (h piece List.mem_cons_self),
      ih fun p hp => h p (List.mem_cons_of_mem _ hp), List.singleton_append]

theorem cursor_ofPieces (pieces : List Bytes) (ending : Ending) :
    (ofPieces pieces ending).cursor = ⟨pieces.flatten, ending⟩ := by
  have hflat : (pieces.flatMap (Bytes.chunks capacity)).flatten = pieces.flatten := by
    induction pieces with
    | nil => rfl
    | cons piece pieces ih =>
      rw [List.flatMap_cons, List.flatten_append, Bytes.flatten_chunks (by decide), ih, List.flatten_cons]
  have hwindow : (ofPieces pieces ending).window = [] := List.eq_nil_of_length_eq_zero (length_window _)
  rw [cursor, hwindow, List.nil_append]
  exact congrArg (Cursor.mk · ending) hflat

end Buffered

/-- **How a stream arrives cannot be told from what is read.** Let a stream arrive in any pieces that fit
into the store, and end in any way. Whatever is called on a reader of it, in and out of compressed
regions, and also after calls that failed: the same comes of every call as on the plain stream. The
reader is then where that of the plain stream is: its window and what is yet to arrive are together what
is left of the stream. Nothing else of the store matters from there on, and neither do other pieces of
the same stream. -/
theorem arrivals_unseen (pieces : List Bytes) (ending : Ending) (limit : Option Duration)
    (compression : Bool) (calls : List ReaderCall)
    (hpieces : ∀ piece ∈ pieces, 0 < piece.length ∧ piece.length ≤ Buffered.capacity) :
    let plain : Reader Cursor := { source := ⟨pieces.flatten, ending⟩, limit, compression }
    let cut (pieces : List Bytes) : Reader Buffered :=
      { source := .ofPieces pieces ending, limit, compression }
    let stop := ((cut pieces).carryOut calls).2
    (cut pieces).source.arriving = pieces ∧
      ((cut pieces).carryOut calls).1 = (plain.carryOut calls).1 ∧
      Reader.Alike (Buffered.Shows pieces.flatten) stop (plain.carryOut calls).2 ∧
      (∀ (other : Buffered) (later : List ReaderCall), other.cursor = stop.source.cursor →
        ({ stop with source := other }.carryOut later).1 = (stop.carryOut later).1) ∧
      ∀ pieces' : List Bytes, pieces'.flatten = pieces.flatten →
        ((cut pieces').carryOut calls).1 = ((cut pieces).carryOut calls).1 := by
  intro plain cut stop
  have hplain (pieces' : List Bytes) (hflat : pieces'.flatten = pieces.flatten) :
      Reader.Alike (fun b c => b.cursor = c) (cut pieces') plain :=
    ⟨(Buffered.cursor_ofPieces pieces' ending).trans (by rw [hflat]), rfl, rfl, rfl⟩
  have hsound : (Buffered.ofPieces pieces ending).Sound := by
    refine ⟨Array.size_replicate, Nat.le_refl 0, fun p hp => hpieces p ?_⟩
    rwa [Buffered.arriving_ofPieces ending hpieces] at hp
  have hshows : Reader.Alike (Buffered.Shows pieces.flatten) (cut pieces) plain :=
    ⟨⟨hsound, Buffered.cursor_ofPieces pieces ending, List.suffix_rfl⟩, rfl, rfl, rfl⟩
  obtain ⟨hsame, hstop⟩ := Reader.carryOut_alike (Buffered.shows_simulates _) calls hshows
  refine ⟨Buffered.arriving_ofPieces ending hpieces, hsame, hstop, fun other later hother => ?_,
    fun pieces' hflat => ?_⟩
  · -- Either source may be taken for the plain stream of what is unread.
    let unread : Reader Cursor := ⟨stop.source.cursor, stop.limit, stop.compression, stop.region⟩
    have hsame (b : Buffered) (hb : b.cursor = stop.source.cursor) :
        ({ stop with source := b }.carryOut later).1 = (unread.carryOut later).1 :=
      (Reader.carryOut_alike Buffered.simulates later ⟨hb, rfl, rfl, rfl⟩).1
    exact (hsame other hother).trans (hsame stop.source rfl).symm
  · exact (Reader.carryOut_alike Buffered.simulates calls (hplain pieces' hflat)).1.trans hsame.symm

/-- A number that straddles two arrivals, one for which too little is left, and a byte after that. -/
theorem arrivals_unseen_straddling :
    let fault : IoFault := .reported "connection reset"
    let cut (pieces : List Bytes) : Reader Buffered := { source := .ofPieces pieces (.broken fault) }
    let calls : List ReaderCall := [.value .uint16, .value .uint32, .value .byte]
    (∀ piece ∈ ([[5], [7, 9]] : List Bytes), 0 < piece.length ∧ piece.length ≤ Buffered.capacity) ∧
      ((cut [[5], [7, 9]]).carryOut calls).1 =
        [⟨.value .uint16, .ok (1797 : UInt16)⟩, ⟨.value .uint32, .error (.io fault)⟩,
          ⟨.value .byte, .error (.io fault)⟩] ∧
      ((cut [[5, 7, 9]]).carryOut calls).1 = ((cut [[5], [7, 9]]).carryOut calls).1 := by
  intro fault cut calls
  have hfits : ∀ piece ∈ ([[5], [7, 9]] : List Bytes), 
      0 < piece.length ∧ piece.length ≤ Buffered.capacity := by decide
  obtain ⟨-, hanswers, -, -, hcut⟩ :=
    arrivals_unseen [[5], [7, 9]] (.broken fault) none false calls hfits
  exact ⟨hfits, hanswers.trans rfl, hcut [[5, 7, 9]] rfl⟩

end ColumnWire
