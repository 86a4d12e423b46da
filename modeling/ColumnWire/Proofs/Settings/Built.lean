import ColumnWire.Config.Address
import ColumnWire.Config.File

/-!
# Settings that can come about

Settings change only by giving a name a value and by taking a name out, so each name stands there
once (`Settings.Built.distinct`). This holds for the settings of every configuration, whether it
was read from an address, a document or a value, or made part by part (`Config.Built.settings`).
Nothing is asked of the names themselves.
-/
namespace ColumnWire

namespace Settings

variable {s s' : Settings} {name : String} {value : Setting}

/-- The settings that can come about. -/
inductive Built : Settings → Prop
  | empty : Built {}
  | set {s : Settings} (h : Built s) (name : String) (value : Setting) : Built (s.set name value)
  | erase {s : Settings} (h : Built s) (name : String) : Built (s.erase name)

/-- The names, in order. -/
def names (s : Settings) : List String := s.entries.map (·.1)

/-- A name that is there keeps its place, and a new one comes last. -/
theorem map_setIn (name : String) (value : Setting) (entries : List (String × Setting)) :
    (setIn name value entries).map (·.1) =
      if name ∈ entries.map (·.1) then entries.map (·.1) else entries.map (·.1) ++ [name] := by
  induction entries with
  | nil => rfl
  | cons entry entries ih =>
    rw [setIn, List.map_cons]
    by_cases hname : entry.1 = name
    · rw [if_pos hname, List.map_cons, hname, if_pos List.mem_cons_self]
    · have hmem : name ∈ entry.1 :: entries.map (·.1) ↔ name ∈ entries.map (·.1) := by
        rw [List.mem_cons, or_iff_right (Ne.symm hname)]
      rw [if_neg hname, List.map_cons, ih]
      by_cases hrest : name ∈ entries.map (·.1)
      · rw [if_pos hrest, if_pos (hmem.mpr hrest)]
      · rw [if_neg hrest, if_neg (mt hmem.mp hrest), List.cons_append]

/-- Entries of other names are passed. -/
theorem setIn_append {front : List (String × Setting)} (hfront : name ∉ front.map (·.1))
    (rest : List (String × Setting)) :
    setIn name value (front ++ rest) = front ++ setIn name value rest := by
  induction front with
  | nil => rfl
  | cons entry front ih =>
    rw [List.map_cons, List.mem_cons, not_or] at hfront
    rw [List.cons_append, setIn, if_neg (Ne.symm hfront.1), ih hfront.2, List.cons_append]

/-- A name that is not there comes last. -/
theorem setIn_new {entries : List (String × Setting)} (hnew : name ∉ entries.map (·.1)) :
    setIn name value entries = entries ++ [(name, value)] := by
  simpa [setIn] using setIn_append hnew []

theorem names_set (s : Settings) (name : String) (value : Setting) :
    (s.set name value).names = if name ∈ s.names then s.names else s.names ++ [name] :=
  map_setIn name value s.entries

theorem names_erase (s : Settings) (name : String) : (s.erase name).names = s.names.erase name := by
  rw [names, names, erase, List.erase_eq_eraseP', List.eraseP_map]
  rfl

/-- **Every name stands there once.** -/
theorem Built.distinct (h : s.Built) : s.names.Nodup := by
  induction h with
  | empty => exact List.nodup_nil
  | @set s _ name value ih =>
    rw [names_set]
    split
    · exact ih
    · next hnew =>
      refine List.nodup_append.mpr ⟨ih, List.nodup_cons.mpr ⟨List.not_mem_nil, List.nodup_nil⟩, ?_⟩
      intro other hother new hone
      rw [List.mem_singleton.mp hone]
      exact fun hsame => hnew (hsame ▸ hother)
  | erase _ name ih =>
    rw [names_erase]
    exact ih.sublist List.erase_sublist

/-- Nothing in front of an entry has its name. -/
theorem not_mem_front {front rest : List (String × Setting)}
    (hdistinct : ((front ++ (name, value) :: rest).map (·.1)).Nodup) : name ∉ front.map (·.1) := by
  rw [List.map_append, List.map_cons] at hdistinct
  exact fun hmem => (List.nodup_append.mp hdistinct).2.2 name hmem name List.mem_cons_self rfl

/-- So the value of a name is the one that stands with it. -/
theorem get?_eq_some {entries : List (String × Setting)} (hdistinct : (entries.map (·.1)).Nodup)
    (hmem : (name, value) ∈ entries) : get? ⟨entries⟩ name = some value := by
  induction entries with
  | nil => cases hmem
  | cons entry entries ih =>
    obtain ⟨hnew, hdistinct⟩ := List.nodup_cons.mp hdistinct
    rcases List.mem_cons.mp hmem with rfl | hrest
    · simp [get?]
    · have hold : name ∈ entries.map (·.1) := List.mem_map.mpr ⟨_, hrest, rfl⟩
      have hother : entry.1 ≠ name := by
        rintro rfl
        exact hnew hold
      have hfind := ih hdistinct hrest
      simp only [get?, List.find?_cons, decide_eq_false hother] at hfind ⊢
      exact hfind

theorem built_ofFields? {fields : List (String × Json)} (h : s.Built)
    (hread : ofFields? fields s = some s') : s'.Built := by
  induction fields generalizing s with
  | nil =>
    cases hread
    exact h
  | cons field fields ih =>
    obtain ⟨name, json⟩ := field
    obtain ⟨value, -, hrest⟩ := Option.bind_eq_some_iff.mp hread
    exact ih (h.set name value) hrest

theorem built_ofJson? {json : Json} (hread : ofJson? json = some s) : s.Built := by
  cases json with
  | object fields => exact built_ofFields? .empty hread
  | _ => cases hread

end Settings

namespace Config

variable {c c' : Config}

/-- The configurations that can come about: they are read, or parts of them are replaced. -/
inductive Built : Config → Prop
  | fresh {c : Config} (hnone : c.settings = {}) : Built c
  | address {c : Config} {text : String} (hread : ofAddress text = .ok c) : Built c
  | document {c : Config} {text : String} (hread : ofDocument text = .ok c) : Built c
  | file {c : Config} {path : String} {content : Except FileFault Bytes}
      (hread : ofFile path content = .ok c) : Built c
  | json {c : Config} {value : Json} (hread : ofJson? value = some c) : Built c
  | set {c : Config} (h : Built c) (name : String) (value : Setting) :
      Built { c with settings := c.settings.set name value }
  | erase {c : Config} (h : Built c) (name : String) :
      Built { c with settings := c.settings.erase name }
  /-- Any other part is replaced. -/
  | other {c c' : Config} (h : Built c) (hsame : c'.settings = c.settings) : Built c'

/-- What is built from a part that could be read. -/
theorem ok_of_bind {α : Type} {x : Except Error α} {f : α → Except Error Config}
    (h : x >>= f = .ok c) : ∃ a, x = .ok a ∧ f a = .ok c := by
  cases x with
  | error e => cases h
  | ok a => exact ⟨a, rfl, h⟩

/-- A key of an address that is not the name of a setting leaves the settings alone. -/
theorem settings_withParam {key value : String} (hread : c.withParam key value = .ok c') :
    c'.settings = c.settings ∨ c'.settings = c.settings.set key (.text value) := by
  unfold withParam at hread
  split at hread
  all_goals first
    | obtain ⟨a, -, hread⟩ := ok_of_bind hread
      cases hread
      exact .inl rfl
    | cases hread
      first
        | exact .inl rfl
        | exact .inr rfl

theorem built_withParams {params : List (String × String)} (h : c.settings.Built)
    (hread : withParams params c = .ok c') : c'.settings.Built := by
  induction params generalizing c with
  | nil =>
    cases hread
    exact h
  | cons param params ih =>
    obtain ⟨key, value⟩ := param
    obtain ⟨c₁, hparam, hrest⟩ := ok_of_bind hread
    refine ih ?_ hrest
    rcases settings_withParam hparam with hsame | hset
    · rwa [hsame]
    · rw [hset]
      exact h.set _ _

/-- A field that is not that of the settings leaves them alone. -/
theorem settings_withField? {name : String} {value : Json} (hread : c.withField? name value = some c') :
    c'.settings = c.settings ∨ Settings.ofJson? value = some c'.settings := by
  unfold withField? at hread
  split at hread
  case h_14 =>
    obtain ⟨settings, hsettings, rfl⟩ := Option.map_eq_some_iff.mp hread
    exact .inr hsettings
  case h_15 =>
    cases hread
    exact .inl rfl
  all_goals
    obtain ⟨v, -, rfl⟩ := Option.map_eq_some_iff.mp hread
    exact .inl rfl

theorem built_withFields? {fields : List (String × Json)} (h : c.settings.Built)
    (hread : withFields? fields c = some c') : c'.settings.Built := by
  induction fields generalizing c with
  | nil =>
    cases hread
    exact h
  | cons field fields ih =>
    obtain ⟨name, value⟩ := field
    obtain ⟨c₁, hfield, hrest⟩ := Option.bind_eq_some_iff.mp hread
    refine ih ?_ hrest
    rcases settings_withField? hfield with hsame | hsettings
    · rwa [hsame]
    · exact Settings.built_ofJson? hsettings

theorem built_ofJson? {value : Json} (hread : ofJson? value = some c) : c.settings.Built := by
  unfold ofJson? at hread
  split at hread
  · split at hread
    · exact built_withFields? .empty hread
    · cases hread
  · split at hread
    · exact built_withFields? .empty hread
    · cases hread
  · cases hread

/-- Validation changes nothing. -/
theorem eq_of_validated (h : c.validated = .ok c') : c' = c := by
  obtain ⟨-, -, hc⟩ := ok_of_bind h
  cases hc
  rfl

theorem built_ofAddress {text : String} (hread : ofAddress text = .ok c) : c.settings.Built := by
  unfold ofAddress at hread
  split at hread
  · cases hread
  · dsimp only at hread
    split at hread
    · cases hread
    · split at hread
      · cases hread
      · obtain ⟨c', hparams, hvalid⟩ := ok_of_bind hread
        rw [eq_of_validated hvalid]
        exact built_withParams .empty hparams

theorem built_ofDocument {text : String} (hread : ofDocument text = .ok c) : c.settings.Built := by
  unfold ofDocument at hread
  split at hread
  · cases hread
  · next c' hparse =>
    obtain ⟨json, -, hjson⟩ := Option.bind_eq_some_iff.mp hparse
    rw [eq_of_validated hread]
    exact built_ofJson? hjson

/-- **However a configuration came about, so did its settings.** -/
theorem Built.settings (h : c.Built) : c.settings.Built := by
  induction h with
  | fresh hnone => rw [hnone]; exact .empty
  | address hread => exact built_ofAddress hread
  | document hread => exact built_ofDocument hread
  | @file c path content hread =>
    unfold ofFile at hread
    split at hread
    · cases hread
    · exact built_ofDocument hread
  | json hread => exact built_ofJson? hread
  | set _ name value ih => exact ih.set name value
  | erase _ name ih => exact ih.erase name
  | other _ hsame ih => rwa [hsame]

end Config

end ColumnWire
