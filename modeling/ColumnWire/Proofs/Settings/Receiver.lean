import ColumnWire.Proofs.Config.Address
import ColumnWire.Proofs.Settings.Built
import ColumnWire.Proofs.Stream.Value
import ColumnWire.Request

/-!
# How a server reads the settings of a query

A server reads names up to the empty one, and behind each name a value of the kind that this name has
(`Receiver.entry`). Names stand once, so that the kinds are those of the settings themselves, and all
entries are read if none of them has the empty name. That name ends the settings wherever it stands:
then its value and all entries behind it are left, and the server takes them for the stage of the
query and what follows (`Config.settings_received`, `Config.settings_cut_short`).
-/
namespace ColumnWire

open Reader Decoder

/-- The kinds of values. -/
inductive SettingKind where
  | text
  | int
  | uint
  | bool
deriving Repr, DecidableEq

namespace Setting

def kind : Setting → SettingKind
  | .text _ => .text
  | .int _ => .int
  | .uint _ => .uint
  | .bool _ => .bool

end Setting

/-- A text whose length is a number of 64 bits. -/
def HasLength (s : String) : Prop := (Utf8.encode s).length < UInt64.size

instance (s : String) : Decidable (HasLength s) := inferInstanceAs (Decidable (_ < _))

namespace Setting

/-- A text has a length; other values have no limits. -/
def WithinLimits : Setting → Prop
  | .text v => HasLength v
  | .int _ | .uint _ | .bool _ => True

instance : (v : Setting) → Decidable v.WithinLimits
  | .text v => inferInstanceAs (Decidable (HasLength v))
  | .int _ | .uint _ | .bool _ => inferInstanceAs (Decidable True)

end Setting

/-- What follows the settings of a query: the stage, whether blocks are compressed, and the text. -/
def Request.tail (compression : Bool) (sql : String) : Bytes :=
  Encode.varint Protocol.completeStage ++ Encode.varint (Protocol.compressionFlag compression) ++
    Encode.text sql

theorem Request.query_eq (compression : Bool) (hostname : String) (settings : Settings) (sql : String) :
    query compression hostname settings sql = ClientPacket.query.encode ++ Encode.text "" ++
      origin hostname ++ (settings.encode ++ tail compression sql) := by
  simp only [query, tail, List.append_assoc]

/-! ## A server -/

namespace Receiver

/-- Read a text of any length. -/
def text : Decoder Cursor String := do
  let n ← varint
  return Utf8.decode (← take n.toNat)

/-- Read a value, which is of the kind. -/
def value : SettingKind → Decoder Cursor Setting
  | .text => do return .text (← text)
  | .int => do return .int (← varint).toInt64
  | .uint => do return .uint (← varint)
  | .bool => do return .bool (← Decoder.bool)

/-- Read a name, and its value, if it is a name that has a kind. The empty name ends the settings. -/
def entry (kind? : String → Option SettingKind) : Decoder Cursor (Option (String × Setting)) := do
  let name ← text
  if name = "" then return none
  else match kind? name with
    | some kind => do return some (name, ← value kind)
    | none => throw (.config (.badValue name ""))

/-- Read what follows the settings of a query. -/
def tail : Decoder Cursor (UInt64 × UInt64 × String) := do
  let stage ← varint
  let flag ← varint
  return (stage, flag, ← text)

theorem reads_text {s : String} (hlength : HasLength s) : Reads text (Encode.text s) s := by
  obtain ⟨n, hn, hcount⟩ := reads_count hlength
  refine hn.bind ?_
  rw [hcount]
  refine (Reads.take _).bind_last ?_
  rw [Utf8.decode_encode]
  exact .pure s

/-- The kind of a value is all that has to be known to read it. -/
theorem reads_value {v : Setting} (hlimits : v.WithinLimits) : Reads (value v.kind) v.encode v := by
  cases v with
  | text v => exact (reads_text hlimits).bind_last (.pure _)
  | int v =>
    refine (reads_varint v.toUInt64).bind_last ?_
    have hwrap : v.toUInt64.toInt64 = v := rfl
    rw [hwrap]
    exact .pure _
  | uint v => exact (reads_varint v).bind_last (.pure _)
  | bool v => exact (reads_bool v).bind_last (.pure _)

theorem reads_end (kind? : String → Option SettingKind) : Reads (entry kind?) (Encode.text "") none :=
  (reads_text (by decide +kernel)).bind_last (.pure none)

theorem reads_entry {kind? : String → Option SettingKind} {name : String} {v : Setting}
    (hname : name ≠ "") (hlength : HasLength name) (hkind : kind? name = some v.kind)
    (hlimits : v.WithinLimits) :
    Reads (entry kind?) (Encode.text name ++ v.encode) (some (name, v)) := by
  refine (reads_text hlength).bind (.ofElse hname ?_)
  simp only [hkind]
  exact (reads_value hlimits).bind_last (.pure _)

/-- What follows the settings is read just to its end. -/
theorem tail_before {stop : Reader Cursor} {stage flag : UInt64} {sql : String} (hsql : HasLength sql)
    (hout : stop.region = none) :
    tail (stop.before (Encode.varint stage ++ Encode.varint flag ++ Encode.text sql)) =
      .ok (stage, flag, sql) stop := by
  have hreads : Reads tail (Encode.varint stage ++ (Encode.varint flag ++ Encode.text sql))
      (stage, flag, sql) :=
    (reads_varint stage).bind ((reads_varint flag).bind ((reads_text hsql).bind_last (.pure _)))
  rw [← List.append_assoc] at hreads
  exact hreads.eq_ok_before hout

end Receiver

namespace Settings

variable {entries : List (String × Setting)} {stop : Reader Cursor}

/-- All texts have lengths. -/
def WithinLimits (s : Settings) : Prop := ∀ entry ∈ s.entries, HasLength entry.1 ∧ entry.2.WithinLimits

instance (s : Settings) : Decidable s.WithinLimits := inferInstanceAs (Decidable (∀ entry ∈ s.entries, _))

/-- The kind of the value of a name. -/
def kind? (s : Settings) (name : String) : Option SettingKind := (s.get? name).map Setting.kind

/-- The entries in front of the first empty name. -/
def beforeEnd : List (String × Setting) → List (String × Setting)
  | [] => []
  | entry :: entries => if entry.1 = "" then [] else entry :: beforeEnd entries

/-- What is written behind the first empty name: nothing, unless it is the name of an entry. -/
def behindEnd : List (String × Setting) → Bytes
  | [] => []
  | entry :: entries => if entry.1 = "" then entry.2.encode ++ encode ⟨entries⟩ else behindEnd entries

theorem encode_cons (entry : String × Setting) (entries : List (String × Setting)) :
    encode ⟨entry :: entries⟩ = Encode.text entry.1 ++ (entry.2.encode ++ encode ⟨entries⟩) := by
  simp only [encode, List.flatMap_cons, List.append_assoc]

theorem encode_ne_nil (s : Settings) : s.encode ≠ [] :=
  fun hnil => Encode.text_ne_nil "" (List.append_eq_nil_iff.mp hnil).2

/-- Something is left just if some entry has the empty name. -/
theorem behindEnd_eq_nil : behindEnd entries = [] ↔ "" ∉ entries.map (·.1) := by
  induction entries with
  | nil => exact iff_of_true rfl List.not_mem_nil
  | cons entry entries ih =>
    rw [behindEnd, List.map_cons, List.mem_cons, not_or]
    by_cases hname : entry.1 = ""
    · rw [if_pos hname]
      refine iff_of_false (fun hnil => ?_) fun hnot => hnot.1 hname.symm
      exact encode_ne_nil _ (List.append_eq_nil_iff.mp hnil).2
    · rw [if_neg hname, ih, and_iff_right (Ne.symm hname)]

theorem beforeEnd_eq_self (h : "" ∉ entries.map (·.1)) : beforeEnd entries = entries := by
  induction entries with
  | nil => rfl
  | cons entry entries ih =>
    rw [List.map_cons, List.mem_cons, not_or] at h
    obtain ⟨hname, hrest⟩ := h
    rw [beforeEnd, if_neg (Ne.symm hname), ih hrest]

/-- Entries are gathered up to the first empty name. -/
theorem gathers_encode {kind? : String → Option SettingKind} (hlimits : WithinLimits ⟨entries⟩)
    (hkind : ∀ entry ∈ entries, kind? entry.1 = some entry.2.kind) (hout : stop.region = none) :
    Gathers (Receiver.entry kind?) (stop.before (encode ⟨entries⟩)) (beforeEnd entries)
      (stop.before (behindEnd entries)) := by
  induction entries with
  | nil => exact .ended ((Receiver.reads_end kind?).eq_ok_before hout)
  | cons entry entries ih =>
    obtain ⟨hentry, hlimits⟩ := List.forall_mem_cons.mp hlimits
    obtain ⟨hfirst, hkind⟩ := List.forall_mem_cons.mp hkind
    rw [encode_cons, beforeEnd, behindEnd]
    by_cases hname : entry.1 = ""
    · rw [if_pos hname, if_pos hname, hname, ← before_before]
      exact .ended ((Receiver.reads_end kind?).eq_ok_before hout)
    · rw [if_neg hname, if_neg hname, ← List.append_assoc, ← before_before]
      have hread := Receiver.reads_entry hname hentry.1 hfirst hentry.2
      exact .more (hread.eq_ok_before hout) (ih hlimits hkind)

end Settings

namespace Config

variable {c : Config} {stop : Reader Cursor} {sql : String}

/-- **What a server reads of the settings of a query**, wherever they come from. If no entry has the
empty name, it reads all of them in order and stops just behind them. Else it reads the entries in
front of that one, and something is left behind its name. What follows the settings is read as what it
is just from its beginning. -/
theorem settings_received (hbuilt : c.Built) (hlimits : c.settings.WithinLimits) (hsql : HasLength sql)
    (hout : stop.region = none) :
    let tail := Request.tail c.compression sql
    (∀ got rd, Gathers (Receiver.entry c.settings.kind?) (stop.before (c.settings.encode ++ tail)) got rd ↔
      if "" ∈ c.settings.names then
        got = Settings.beforeEnd c.settings.entries ∧
          rd = stop.before (Settings.behindEnd c.settings.entries ++ tail)
      else got = c.settings.entries ∧ rd = stop.before tail) ∧
    ("" ∈ c.settings.names → Settings.behindEnd c.settings.entries ≠ []) ∧
    Receiver.tail (stop.before tail) =
      .ok (Protocol.completeStage, Protocol.compressionFlag c.compression, sql) stop ∧
    ∀ hostname, Request.query c.compression hostname c.settings sql = ClientPacket.query.encode ++
      Encode.text "" ++ Request.origin hostname ++ (c.settings.encode ++ tail) := by
  intro tail
  have hdistinct := hbuilt.settings.distinct
  have hkind : ∀ entry ∈ c.settings.entries, c.settings.kind? entry.1 = some entry.2.kind := by
    intro entry hentry
    rw [Settings.kind?, Settings.get?_eq_some hdistinct hentry]
    rfl
  have hout' : (stop.before tail).region = none := hout
  have hall := Settings.gathers_encode hlimits hkind hout'
  rw [before_before, before_before] at hall
  refine ⟨fun got rd => ?_, fun hmem hnil => Settings.behindEnd_eq_nil.mp hnil hmem,
    Receiver.tail_before hsql hout, fun hostname => Request.query_eq ..⟩
  split
  · exact hall.iff
  · next hname =>
    rw [Settings.beforeEnd_eq_self hname, Settings.behindEnd_eq_nil.mpr hname, List.nil_append] at hall
    exact hall.iff

/-- The settings of an address that has a comment for the log, and one of each other kind. -/
theorem settings_received_comment :
    let address := "clickhouse://localhost?log_comment=daily"
    let given : Config := { settings := ⟨[("log_comment", .text "daily")]⟩ }
    let settings := ((given.settings.set "priority" (.int (-3))).set "max_threads" (.uint 300)).set
      "readonly" (.bool true)
    let c : Config := { given with settings }
    let tail := Request.tail true "SELECT 1"
    let stop : Reader Cursor := ⟨⟨[4], .closed⟩, none, true, none⟩
    ofAddress address = .ok given ∧ c.Built ∧ c.settings.WithinLimits ∧ HasLength "SELECT 1" ∧
      Gathers (Receiver.entry settings.kind?) (stop.before (settings.encode ++ tail))
        [("log_comment", .text "daily"), ("priority", .int (-3)), ("max_threads", .uint 300),
          ("readonly", .bool true)] (stop.before tail) := by
  intro address given settings c tail stop
  have hread : ofAddress address = .ok given := ofAddress_eq_ok (by decide +kernel)
  have hbuilt : c.Built := .set (.set (.set (.address hread) _ _) _ _) _ _
  have hlimits : c.settings.WithinLimits := by decide +kernel
  have hsql : HasLength "SELECT 1" := by decide +kernel
  have hnames : "" ∉ c.settings.names := by decide +kernel
  have hout : stop.region = none := rfl
  obtain ⟨hgathers, -⟩ := settings_received hbuilt hlimits hsql hout
  refine ⟨hread, hbuilt, hlimits, hsql, (hgathers _ _).mpr ?_⟩
  rw [if_neg hnames]
  exact ⟨by decide +kernel, rfl⟩

/-- **An address may give an empty name a value**, and can be used. Then nothing is read of its
settings, and the server takes the length of the value for the stage of the query. -/
theorem settings_cut_short :
    let c : Config := { settings := ⟨[("", .text "5")]⟩ }
    let tail := Request.tail true "SELECT 1"
    let stop : Reader Cursor := ⟨⟨[4], .closed⟩, none, true, none⟩
    ofAddress "clickhouse://localhost?=5" = .ok c ∧ c.validate = .ok () ∧
      Gathers (Receiver.entry c.settings.kind?) (stop.before (c.settings.encode ++ tail)) []
        (stop.before ([1, 53, 0] ++ tail)) ∧
      (¬ ∃ rd, Gathers (Receiver.entry c.settings.kind?) (stop.before (c.settings.encode ++ tail))
        c.settings.entries rd) ∧
      Receiver.tail (stop.before ([1, 53, 0] ++ tail)) = .ok (1, 53, "") (stop.before tail) := by
  intro c tail stop
  have hread : ofAddress "clickhouse://localhost?=5" = .ok c := ofAddress_eq_ok (by decide +kernel)
  have hfault : c.fault? = none := by decide +kernel
  have hvalid : c.validate = .ok () := by
    rw [validate, hfault]
  have hbehind : Settings.behindEnd c.settings.entries = [1, 53, 0] := by decide +kernel
  have hlimits : c.settings.WithinLimits := by decide +kernel
  have hkind : ∀ entry ∈ c.settings.entries, c.settings.kind? entry.1 = some entry.2.kind := by
    decide +kernel
  have hout : (stop.before tail).region = none := rfl
  have hall := Settings.gathers_encode hlimits hkind hout
  rw [before_before, before_before, hbehind] at hall
  refine ⟨hread, hvalid, hall, ?_, ?_⟩
  · rintro ⟨rd, hrd⟩
    cases (hrd.unique hall).1
  · have hlength : HasLength "" := by decide +kernel
    have hbytes : ([1, 53, 0] : Bytes) = Encode.varint 1 ++ Encode.varint 53 ++ Encode.text "" := by
      decide +kernel
    rw [← before_before, hbytes]
    exact Receiver.tail_before hlength hout

end Config

end ColumnWire
