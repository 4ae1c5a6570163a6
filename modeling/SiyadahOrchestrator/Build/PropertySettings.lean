import SiyadahOrchestrator.Build.Catalog

/-!
# The settings of the properties

A step carries a setting for each of its properties, and the values of its input are cast to the
types that the schema gives them (`generatePropertySettings`). The builders do this twice: the
dynamic build for the action it was asked for, and the chain builder once more for the step that it
makes of it.

`settings_and_config` says what one pass leaves, key by key; everything else is read off it. A
second pass finds values that are cast already, and a cast leaves alone what it has made. The
exception is JSON: a text may decode to a string that is a JSON text again, or that is a reference.
-/

namespace Siyadah

open PyValue

/-! ### Dictionaries -/

section Items

variable {d d' : Fields} {key : PyStr}

/-- Dictionaries with the same keys in the same order differ in a value or not at all. -/
theorem eq_of_lookup_eq (hkeys : d.map Prod.fst = d'.map Prod.fst) (hnodup : (d.map Prod.fst).Nodup)
    (h : ∀ key, d.lookup key = d'.lookup key) : d = d' := by
  induction d generalizing d' with
  | nil => exact (List.map_eq_nil_iff.1 hkeys.symm).symm
  | cons e d ih =>
    cases d' with
    | nil => exact absurd hkeys (by simp)
    | cons e' d' =>
      obtain ⟨hfirst, hrest⟩ := List.cons.inj hkeys
      obtain ⟨hnot, hnodup'⟩ := List.nodup_cons.1 hnodup
      have hvalue := h e.1
      rw [List.lookup_cons_self, hfirst, List.lookup_cons_self] at hvalue
      obtain rfl : e = e' := Prod.ext hfirst (Option.some.inj hvalue)
      refine congrArg _ (ih hrest hnodup' fun key ↦ ?_)
      by_cases hkey : key = e.1
      · have hnone : ∀ d₁ : Fields, e.1 ∉ d₁.map Prod.fst → d₁.lookup e.1 = none := by
          intro d₁ hd₁
          exact Option.eq_none_iff_forall_ne_some.2 fun v hv ↦ hd₁ (mem_keys_iff.2 ⟨v, hv⟩)
        rw [hkey, hnone d hnot, hnone d' (hrest ▸ hnot)]
      · have hother := h key
        rwa [List.lookup_cons, List.lookup_cons, beq_false_of_ne hkey] at hother

end Items

section Runtime

variable (R : PyRuntime)

/-! ### One property -/

/-- The type of a property. -/
def propertyType (pinfo : PyValue) : PyValue :=
  match pinfo with
  | .dict _ => (pinfo.getD "type" (py "")).toOption.getD (py "")
  | v => .str (R.str v)

/-- The setting of a value that the user has given. -/
def customInput (ptype : PyValue) : PyValue :=
  pyDict [("type", ptype), ("status", py "CUSTOM_INPUT")]

/-- What becomes of a value: one with a reference stays as it is. -/
def recast (pinfo val : PyValue) : PyValue :=
  if containsHandlebars val then val else castProperty R (propertyType R pinfo) val

/-- The setting that the type of a property asks for. -/
def typeSetting (pinfo val : PyValue) : Option PyValue :=
  let ptype := propertyType R pinfo
  if ptype.isStr (text "DYNAMIC") || ptype.isStr (text "DROPDOWN") ||
      ptype.isStr (text "MULTI_SELECT_DROPDOWN") then some (customInput ptype)
  else if ptype.isStr (text "STATIC_DROPDOWN") then staticDropdown pinfo val
  else none

/-- The setting that a property with a value gets. -/
def settingOf (pinfo val : PyValue) : Option PyValue :=
  if containsHandlebars val then some (customInput (py "SHORT_TEXT"))
  else typeSetting R pinfo (castProperty R (propertyType R pinfo) val)

variable {R} {acc : Fields × Fields} {props : Fields} {name : PyStr} {pinfo val : PyValue}

theorem propertySetting_auth : propertySetting R acc (text "auth", pinfo) = acc := if_pos rfl

theorem propertySetting_absent (h : acc.2.lookup name = none) :
    propertySetting R acc (name, pinfo) = acc := by
  rw [propertySetting]
  split
  · rfl
  · rw [h]

theorem propertySetting_present (hauth : name ≠ text "auth") (h : acc.2.lookup name = some val)
    (hnodup : (acc.2.map Prod.fst).Nodup) :
    propertySetting R acc (name, pinfo) =
      ((settingOf R pinfo val).elim acc.1 (upsert acc.1 name),
        upsert acc.2 name (recast R pinfo val)) := by
  rw [propertySetting, if_neg hauth]
  simp only [h]
  by_cases hdyn : containsHandlebars val = true
  · rw [if_pos hdyn, settingOf, if_pos hdyn, recast, if_pos hdyn, upsert_eq_self hnodup h]
    rfl
  · rw [if_neg hdyn, settingOf, if_neg hdyn, recast, if_neg hdyn]
    rfl

/-! ### One pass -/

variable (R)

/-- What a pass makes of the value under a key. -/
def recastAt (props : Fields) (key : PyStr) (val : PyValue) : PyValue :=
  if key = text "auth" then val else (props.lookup key).elim val (recast R · val)

/-- The setting that a pass registers under a key. -/
def settingAt (props input : Fields) (key : PyStr) : Option PyValue :=
  if key = text "auth" then none
  else (props.lookup key).bind fun pinfo ↦ (input.lookup key).bind (settingOf R pinfo)

variable {R} {settings input : Fields} {key : PyStr}

theorem recastAt_cons_of_ne (h : key ≠ name) :
    recastAt R ((name, pinfo) :: props) key val = recastAt R props key val := by
  rw [recastAt, List.lookup_cons, beq_false_of_ne h, recastAt]

theorem settingAt_cons_of_ne (h : key ≠ name) :
    settingAt R ((name, pinfo) :: props) input key = settingAt R props input key := by
  rw [settingAt, List.lookup_cons, beq_false_of_ne h, settingAt]

theorem settingAt_cons_self (h : name ≠ text "auth") :
    settingAt R ((name, pinfo) :: props) input name =
      (input.lookup name).bind (settingOf R pinfo) := by
  rw [settingAt, if_neg h, List.lookup_cons_self, Option.bind_some]

theorem lookup_eq_none (h : key ∉ props.map Prod.fst) : props.lookup key = none :=
  Option.eq_none_iff_forall_ne_some.2 fun v hv ↦ h (mem_keys_iff.2 ⟨v, hv⟩)

theorem recastAt_of_not_mem (h : key ∉ props.map Prod.fst) : recastAt R props key val = val := by
  rw [recastAt, lookup_eq_none h, Option.elim_none, ite_self]

theorem settingAt_of_not_mem (h : key ∉ props.map Prod.fst) :
    settingAt R props input key = none := by
  rw [settingAt, lookup_eq_none h, Option.bind_none, ite_self]

/-- What one property does to the input. -/
theorem propertySetting_config (hnodup : (input.map Prod.fst).Nodup) (settings : Fields)
    (name : PyStr) (pinfo : PyValue) :
    (propertySetting R (settings, input) (name, pinfo)).2.map Prod.fst = input.map Prod.fst ∧
      ∀ key, (propertySetting R (settings, input) (name, pinfo)).2.lookup key =
        (input.lookup key).map (recastAt R [(name, pinfo)] key) := by
  have hother : ∀ key, key ≠ name ∨ key = text "auth" →
      input.lookup key = (input.lookup key).map (recastAt R [(name, pinfo)] key) := by
    intro key hkey
    have hid : recastAt R [(name, pinfo)] key = id := by
      funext v
      rcases hkey with hne | rfl
      · exact (recastAt_cons_of_ne hne).trans (recastAt_of_not_mem List.not_mem_nil)
      · exact if_pos rfl
    rw [hid, Option.map_id, id]
  by_cases hauth : name = text "auth"
  · subst hauth
    rw [propertySetting_auth]
    exact ⟨rfl, fun key ↦ hother key (Decidable.em (key = text "auth")).symm⟩
  · cases hval : input.lookup name with
    | none =>
      rw [propertySetting_absent hval]
      refine ⟨rfl, fun key ↦ ?_⟩
      by_cases hkey : key = name
      · show input.lookup key = _
        rw [hkey, hval, Option.map_none]
      · exact hother key (.inl hkey)
    | some val =>
      rw [propertySetting_present hauth hval hnodup]
      refine ⟨map_fst_upsert.trans (if_pos (mem_keys_iff.2 ⟨val, hval⟩)), fun key ↦ ?_⟩
      by_cases hkey : key = name
      · subst hkey
        rw [lookup_upsert_self, hval, Option.map_some, recastAt, if_neg hauth,
          List.lookup_cons_self, Option.elim_some]
      · exact (lookup_upsert_of_ne hkey).trans (hother key (.inl hkey))

/-- What one property does to the settings. -/
theorem propertySetting_settings (hnodup : (input.map Prod.fst).Nodup) (settings : Fields)
    (name : PyStr) (pinfo : PyValue) :
    (propertySetting R (settings, input) (name, pinfo)).1 =
      (settingAt R [(name, pinfo)] input name).elim settings (upsert settings name) := by
  by_cases hauth : name = text "auth"
  · subst hauth
    rw [propertySetting_auth, settingAt, if_pos rfl]
    rfl
  · rw [settingAt_cons_self hauth]
    cases hval : input.lookup name with
    | none =>
      rw [propertySetting_absent hval]
      rfl
    | some val =>
      rw [propertySetting_present hauth hval hnodup]
      rfl

/-- What a pass over the properties leaves, key by key. -/
structure Passed (R : PyRuntime) (props settings input : Fields) (out : Fields × Fields) :
    Prop where
  keys : out.2.map Prod.fst = input.map Prod.fst
  config : ∀ key, out.2.lookup key = (input.lookup key).map (recastAt R props key)
  settings : ∀ key, out.1.lookup key = (settingAt R props input key).or (settings.lookup key)

/-- **What a pass over the properties leaves.** -/
theorem settings_and_config (hprops : (props.map Prod.fst).Nodup)
    (hinput : (input.map Prod.fst).Nodup) :
    Passed R props settings input (props.foldl (propertySetting R) (settings, input)) := by
  induction props generalizing settings input with
  | nil =>
    refine ⟨rfl, fun key ↦ ?_, fun key ↦ ?_⟩
    · have hid : recastAt R [] key = id := funext fun v ↦ recastAt_of_not_mem List.not_mem_nil
      rw [hid, Option.map_id, id]
      rfl
    · rw [settingAt_of_not_mem List.not_mem_nil, Option.none_or]
      rfl
  | cons prop props ih =>
    obtain ⟨name, pinfo⟩ := prop
    obtain ⟨hnot, hprops⟩ := List.nodup_cons.1 hprops
    obtain ⟨hkeys, hconfig⟩ := propertySetting_config (R := R) hinput settings name pinfo
    have hsettings := propertySetting_settings (R := R) hinput settings name pinfo
    rw [List.foldl_cons]
    generalize propertySetting R (settings, input) (name, pinfo) = acc at hkeys hconfig hsettings ⊢
    obtain ⟨s, d⟩ := acc
    have hrest : Passed R props s d (props.foldl (propertySetting R) (s, d)) :=
      ih hprops (hkeys ▸ hinput)
    -- the other properties leave the value under this name alone, and this one the other values
    have hsame : ∀ key, key ≠ name → d.lookup key = input.lookup key := by
      intro key hkey
      have hid : recastAt R [(name, pinfo)] key = id := funext fun v ↦
        (recastAt_cons_of_ne hkey).trans (recastAt_of_not_mem List.not_mem_nil)
      rw [hconfig key, hid, Option.map_id, id]
    refine ⟨hrest.keys.trans hkeys, fun key ↦ ?_, fun key ↦ ?_⟩
    · rw [hrest.config key]
      by_cases hkey : key = name
      · subst hkey
        have hid : recastAt R props key = id := funext fun v ↦ recastAt_of_not_mem hnot
        rw [hid, Option.map_id, id, hconfig key]
        refine congrArg₂ _ (funext fun v ↦ ?_) rfl
        rw [recastAt, recastAt, List.lookup_cons_self, List.lookup_cons_self]
      · rw [hsame key hkey]
        exact congrArg₂ _ (funext fun v ↦ (recastAt_cons_of_ne hkey).symm) rfl
    · rw [hrest.settings key]
      by_cases hkey : key = name
      · subst hkey
        rw [settingAt_of_not_mem hnot, Option.none_or]
        have hself : settingAt R ((key, pinfo) :: props) input key =
            settingAt R [(key, pinfo)] input key := by
          rw [settingAt, settingAt, List.lookup_cons_self, List.lookup_cons_self]
        rw [hself]
        show s.lookup key = _
        rw [show s = _ from hsettings]
        cases settingAt R [(key, pinfo)] input key with
        | none => rfl
        | some v => exact lookup_upsert_self
      · rw [settingAt_cons_of_ne hkey, settingAt, hsame key hkey, settingAt]
        refine congrArg _ ?_
        rw [show s = _ from hsettings]
        cases settingAt R [(name, pinfo)] input name with
        | none => rfl
        | some v => exact lookup_upsert_of_ne hkey

/-- Two passes that register the same settings leave the same settings. -/
theorem settings_congr {input' : Fields} (hprops : (props.map Prod.fst).Nodup)
    (hinput : (input.map Prod.fst).Nodup) (hinput' : (input'.map Prod.fst).Nodup)
    (h : ∀ key, settingAt R props input key = settingAt R props input' key) :
    (props.foldl (propertySetting R) (settings, input)).1 =
      (props.foldl (propertySetting R) (settings, input')).1 := by
  induction props generalizing settings input input' with
  | nil => rfl
  | cons prop props ih =>
    obtain ⟨name, pinfo⟩ := prop
    obtain ⟨hnot, hprops⟩ := List.nodup_cons.1 hprops
    have hstep : ∀ (d : Fields), (d.map Prod.fst).Nodup → ∃ d' : Fields,
        propertySetting R (settings, d) (name, pinfo) =
          ((settingAt R ((name, pinfo) :: props) d name).elim settings (upsert settings name), d') ∧
        (d'.map Prod.fst).Nodup ∧
        ∀ key, settingAt R props d' key =
          if key = name then none else settingAt R ((name, pinfo) :: props) d key := by
      intro d hd
      obtain ⟨hkeys, hconfig⟩ := propertySetting_config (R := R) hd settings name pinfo
      refine ⟨_, Prod.ext ((propertySetting_settings hd settings name pinfo).trans ?_) rfl,
        hkeys ▸ hd, fun key ↦ ?_⟩
      · rw [settingAt, settingAt, List.lookup_cons_self, List.lookup_cons_self]
      · split
        · rename_i hkey
          exact settingAt_of_not_mem (hkey ▸ hnot)
        · rename_i hkey
          have hid : recastAt R [(name, pinfo)] key = id := funext fun v ↦
            (recastAt_cons_of_ne hkey).trans (recastAt_of_not_mem List.not_mem_nil)
          rw [settingAt_cons_of_ne hkey, settingAt, hconfig key, hid, Option.map_id, settingAt]
          rfl
    obtain ⟨d, hd, hnodup, hrest⟩ := hstep input hinput
    obtain ⟨d', hd', hnodup', hrest'⟩ := hstep input' hinput'
    rw [List.foldl_cons, List.foldl_cons, hd, hd', h name]
    refine ih hprops hnodup hnodup' fun key ↦ ?_
    rw [hrest key, hrest' key, h key]

/-! ### The fallback -/

/-- The setting of what no property has registered. -/
def manualSetting : PyValue := pyDict [("type", py "MANUAL")]

theorem manualSettings_congr {input' : Fields} (h : input.map Prod.fst = input'.map Prod.fst) :
    manualSettings settings input = manualSettings settings input' := by
  have hkeys : ∀ d : Fields, manualSettings settings d =
      (d.map Prod.fst).foldl (fun settings key ↦
        if key = text "auth" ∨ key ∈ settings.map Prod.fst then settings
        else settings ++ [(key, manualSetting)]) settings := by
    intro d
    rw [List.foldl_map]
    rfl
  rw [hkeys, hkeys, h]

theorem lookup_manualSettings :
    (manualSettings settings input).lookup key = (settings.lookup key).or
      (if key ≠ text "auth" ∧ key ∈ input.map Prod.fst then some manualSetting else none) := by
  induction input generalizing settings with
  | nil =>
    rw [if_neg fun h ↦ absurd h.2 List.not_mem_nil, Option.or_none]
    rfl
  | cons f input ih =>
    refine ih.trans ?_
    rw [List.map_cons]
    show ((if f.1 = text "auth" ∨ f.1 ∈ settings.map Prod.fst then settings
      else settings ++ [(f.1, manualSetting)]).lookup key).or _ = _
    by_cases hskip : f.1 = text "auth" ∨ f.1 ∈ settings.map Prod.fst
    · rw [if_pos hskip]
      cases hs : settings.lookup key with
      | some v => rw [Option.some_or, Option.some_or]
      | none =>
        -- a key that is passed over is `auth`, or has a setting
        have hne : key = f.1 → key = text "auth" := fun hkey ↦
          (hkey ▸ hskip).resolve_right fun hmem ↦ by
            obtain ⟨v, hv⟩ := mem_keys_iff.1 hmem
            rw [hs] at hv
            exact absurd hv (by simp)
        refine congrArg _ (if_congr ?_ rfl rfl)
        exact and_congr_right fun hauth ↦ (List.mem_cons.trans
          (or_iff_right fun hkey ↦ hauth (hne hkey))).symm
    · obtain ⟨hauth, hnew⟩ := not_or.1 hskip
      rw [if_neg hskip, List.lookup_append]
      by_cases hkey : key = f.1
      · subst hkey
        rw [lookup_eq_none hnew, List.lookup_cons_self, Option.none_or, Option.none_or,
          Option.some_or, if_pos ⟨hauth, List.mem_cons_self⟩]
      · rw [List.lookup_cons, beq_false_of_ne hkey, List.lookup_nil, Option.or_none]
        refine congrArg _ (if_congr ?_ rfl rfl)
        exact and_congr_right fun _ ↦ (List.mem_cons.trans (or_iff_right hkey)).symm

variable (R) in
/-- A pass over the properties, with the fallback. -/
def propertyPass (props input : Fields) : Fields × Fields :=
  let acc := props.foldl (propertySetting R) ([], input)
  (manualSettings acc.1 acc.2, acc.2)

theorem generatePropertySettings_dict (hne : props ≠ []) :
    generatePropertySettings R (.dict props) input = .ok (propertyPass R props input) := by
  cases props with
  | nil => exact absurd rfl hne
  | cons prop props => rfl

section Pass

variable (hprops : (props.map Prod.fst).Nodup) (hinput : (input.map Prod.fst).Nodup)
include hprops hinput

theorem keys_propertyPass : (propertyPass R props input).2.map Prod.fst = input.map Prod.fst :=
  (settings_and_config hprops hinput).keys

theorem lookup_config (key : PyStr) :
    (propertyPass R props input).2.lookup key = (input.lookup key).map (recastAt R props key) :=
  (settings_and_config hprops hinput).config key

theorem lookup_settings (key : PyStr) :
    (propertyPass R props input).1.lookup key = (settingAt R props input key).or
      (if key ≠ text "auth" ∧ key ∈ input.map Prod.fst then some manualSetting else none) := by
  obtain ⟨hkeys, -, hsettings⟩ := settings_and_config (R := R) hprops hinput
  refine lookup_manualSettings.trans ?_
  rw [hsettings, hkeys, List.lookup_nil, Option.or_none]

/-- **The settings belong to the keys of the input** but `auth`. -/
theorem mem_settings_iff :
    key ∈ (propertyPass R props input).1.map Prod.fst ↔
      key ∈ input.map Prod.fst ∧ key ≠ text "auth" := by
  rw [mem_keys_iff, lookup_settings hprops hinput key]
  by_cases hkey : key ≠ text "auth" ∧ key ∈ input.map Prod.fst
  · rw [if_pos hkey]
    refine iff_of_true ?_ hkey.symm
    cases settingAt R props input key with
    | none => exact ⟨_, rfl⟩
    | some v => exact ⟨v, rfl⟩
  · rw [if_neg hkey, Option.or_none]
    refine iff_of_false (fun ⟨v, hv⟩ ↦ hkey ?_) fun h ↦ hkey h.symm
    rw [settingAt] at hv
    split at hv
    · exact absurd hv (by simp)
    · rename_i hauth
      obtain ⟨pinfo, -, hv⟩ := Option.bind_eq_some_iff.1 hv
      obtain ⟨val, hval, -⟩ := Option.bind_eq_some_iff.1 hv
      exact ⟨hauth, mem_keys_iff.2 ⟨val, hval⟩⟩

/-- A value with a reference stays as it is. -/
theorem lookup_config_of_reference (hval : input.lookup key = some val)
    (hdyn : containsHandlebars val = true) :
    (propertyPass R props input).2.lookup key = some val := by
  rw [lookup_config hprops hinput, hval, Option.map_some, recastAt]
  split
  · rfl
  · cases props.lookup key with
    | none => rfl
    | some pinfo => exact congrArg some (if_pos hdyn)

end Pass

/-! ### Casting twice -/

/-- What a cast to a number makes of a value. -/
theorem castProperty_number (val : PyValue) :
    castProperty R (.str (text "NUMBER")) val = val ∨
      (∃ n, castProperty R (.str (text "NUMBER")) val = .int n) ∨
        ∃ x, castProperty R (.str (text "NUMBER")) val = .float x := by
  have hread : ∀ v : PyValue, castProperty R (.str (text "NUMBER")) v =
      (if (R.str v).contains (text ".") then (R.toFloat v).elim v .float
        else (R.toInt v).elim v .int) → castProperty R (.str (text "NUMBER")) v = v ∨
      (∃ n, castProperty R (.str (text "NUMBER")) v = .int n) ∨
        ∃ x, castProperty R (.str (text "NUMBER")) v = .float x := by
    intro v hv
    rw [hv]
    split
    · cases R.toFloat v with
      | none => exact .inl rfl
      | some x => exact .inr (.inr ⟨x, rfl⟩)
    · cases R.toInt v with
      | none => exact .inl rfl
      | some n => exact .inr (.inl ⟨n, rfl⟩)
  cases val with
  | str s => exact hread _ rfl
  | list vs => exact hread _ rfl
  | dict fs => exact hread _ rfl
  | _ => exact .inl rfl

/-- Only a JSON text is cast to something that is cast again, or that has a reference. -/
theorem castProperty_stable {ptype : PyValue} (htype : ptype.isStr (text "JSON") = false)
    (hval : containsHandlebars val = false) :
    containsHandlebars (castProperty R ptype val) = false ∧
      castProperty R ptype (castProperty R ptype val) = castProperty R ptype val := by
  by_cases hbool : ptype.isStr (text "BOOLEAN") = true
  · have hcast : ∀ v, ∃ b, castProperty R ptype v = .bool b := fun v ↦ ⟨_, if_pos hbool⟩
    have hsame : ∀ b, castProperty R ptype (.bool b) = .bool b := fun b ↦ if_pos hbool
    obtain ⟨b, hb⟩ := hcast val
    rw [hb, hsame]
    exact ⟨rfl, rfl⟩
  by_cases harray : ptype.isStr (text "ARRAY") = true
  · obtain rfl := eq_str_of_isStr harray
    have hwrap : containsHandlebars (.list [val]) = false := by
      rw [containsHandlebars, itemsContainHandlebars, itemsContainHandlebars, hval]
      rfl
    cases val with
    | null => exact ⟨rfl, rfl⟩
    | list vs => exact ⟨hval, rfl⟩
    | _ => exact ⟨hwrap, rfl⟩
  by_cases hnumber : ptype.isStr (text "NUMBER") = true
  · obtain rfl := eq_str_of_isStr hnumber
    rcases castProperty_number (R := R) val with h | ⟨n, h⟩ | ⟨x, h⟩
    · rw [show castProperty R _ val = val from h]
      exact ⟨hval, h⟩
    · rw [show castProperty R _ val = .int n from h]
      exact ⟨rfl, rfl⟩
    · rw [show castProperty R _ val = .float x from h]
      exact ⟨rfl, rfl⟩
  have hkeep : ∀ v, castProperty R ptype v = v := fun v ↦ (if_neg hbool).trans
    ((if_neg harray).trans ((if_neg (ne_true_of_eq_false htype)).trans (if_neg hnumber)))
  rw [hkeep, hkeep]
  exact ⟨hval, rfl⟩

/-- A JSON text is decoded where it can be; nothing else is. -/
theorem castProperty_json {ptype : PyValue} (htype : ptype.isStr (text "JSON") = true) :
    (∀ s, castProperty R ptype (.str s) = (R.loads s).getD (.str s)) ∧
      ∀ v, (∀ s, v ≠ .str s) → castProperty R ptype v = v := by
  obtain rfl := eq_str_of_isStr htype
  refine ⟨fun s ↦ rfl, fun v hv ↦ ?_⟩
  cases v with
  | str s => exact absurd rfl (hv s)
  | _ => rfl

/-- A JSON text that decodes for good: to nothing with a reference, and to no string that decodes
to something else again. -/
def DecodesForGood (R : PyRuntime) (s : PyStr) : Prop :=
  ∀ v, R.loads s = some v → containsHandlebars v = false ∧
    ∀ t, v = .str t → ∀ w, R.loads t = some w → w = .str t

/-- A value that is cast for good. -/
def CastForGood (R : PyRuntime) (pinfo val : PyValue) : Prop :=
  recast R pinfo (recast R pinfo val) = recast R pinfo val ∧
    settingOf R pinfo (recast R pinfo val) = settingOf R pinfo val

theorem recast_of_plain (h : containsHandlebars val = false) :
    recast R pinfo val = castProperty R (propertyType R pinfo) val :=
  if_neg (ne_true_of_eq_false h)

theorem settingOf_of_plain (h : containsHandlebars val = false) :
    settingOf R pinfo val = typeSetting R pinfo (recast R pinfo val) := by
  rw [recast_of_plain h]
  exact if_neg (ne_true_of_eq_false h)

/-- A cast that has settled, without a reference, gets the setting it got. -/
theorem CastForGood.of_stable (hval : containsHandlebars val = false)
    (hcast : containsHandlebars (recast R pinfo val) = false)
    (hstable : recast R pinfo (recast R pinfo val) = recast R pinfo val) :
    CastForGood R pinfo val := by
  refine ⟨hstable, ?_⟩
  rw [settingOf_of_plain hcast, hstable, settingOf_of_plain hval]

theorem CastForGood.of_eq (h : recast R pinfo val = val) : CastForGood R pinfo val := by
  rw [CastForGood, h, h]
  exact ⟨rfl, rfl⟩

theorem typeSetting_json (h : (propertyType R pinfo).isStr (text "JSON") = true) :
    typeSetting R pinfo val = none := by
  rw [typeSetting, eq_str_of_isStr h]
  rfl

/-- **What is cast for good**: everything but a JSON text that decodes to a text or a reference. -/
theorem castForGood_iff :
    CastForGood R pinfo val ↔ ∀ s, val = .str s →
      (propertyType R pinfo).isStr (text "JSON") = true → containsHandlebars val = false →
      DecodesForGood R s := by
  cases hval : containsHandlebars val with
  | true => exact iff_of_true (.of_eq (if_pos hval)) fun _ _ _ h ↦ absurd h (by simp)
  | false =>
    cases hjson : (propertyType R pinfo).isStr (text "JSON") with
    | false =>
      refine iff_of_true ?_ fun _ _ h ↦ absurd h (by simp)
      obtain ⟨hcast, hstable⟩ := castProperty_stable (R := R) hjson hval
      rw [← recast_of_plain hval] at hcast hstable
      exact .of_stable hval hcast ((recast_of_plain hcast).trans hstable)
    | true =>
      obtain ⟨htext, hother⟩ := castProperty_json (R := R) hjson
      by_cases hstr : ∀ s, val ≠ .str s
      · refine iff_of_true (.of_eq ?_) fun s h ↦ absurd h (hstr s)
        rw [recast_of_plain hval, hother val hstr]
      · obtain ⟨s, hs⟩ := not_forall.1 hstr
        obtain rfl := not_not.1 hs
        have hrecast : recast R pinfo (.str s) = (R.loads s).getD (.str s) := by
          rw [recast_of_plain hval, htext]
        refine Iff.trans ?_ ⟨fun h s' hs' _ _ ↦ PyValue.str.inj hs' ▸ h, fun h ↦ h s rfl rfl rfl⟩
        cases hloads : R.loads s with
        | none =>
          rw [hloads, Option.getD_none] at hrecast
          refine iff_of_true (.of_eq hrecast) fun v hv ↦ ?_
          rw [hloads] at hv
          exact absurd hv (by simp)
        | some v =>
          rw [hloads, Option.getD_some] at hrecast
          have hdecodes : DecodesForGood R s ↔ containsHandlebars v = false ∧
              ∀ t, v = .str t → ∀ w, R.loads t = some w → w = .str t :=
            ⟨fun h ↦ h v hloads, fun h v' hv' ↦ Option.some.inj (hloads.symm.trans hv') ▸ h⟩
          rw [hdecodes]
          constructor
          · rintro ⟨hstable, hsetting⟩
            rw [hrecast] at hstable hsetting
            have hplain : containsHandlebars v = false := by
              rw [settingOf_of_plain hval, typeSetting_json hjson] at hsetting
              refine eq_false_of_ne_true fun hdyn ↦ ?_
              rw [settingOf, if_pos hdyn] at hsetting
              exact absurd hsetting (by simp)
            refine ⟨hplain, fun t ht w hw ↦ ?_⟩
            rw [recast_of_plain hplain, ht, htext, hw, Option.getD_some] at hstable
            exact hstable
          · rintro ⟨hplain, hagain⟩
            refine .of_stable hval (hrecast ▸ hplain) ?_
            rw [hrecast, recast_of_plain hplain]
            by_cases hv : ∀ t, v ≠ .str t
            · exact hother v hv
            · obtain ⟨t, ht⟩ := not_forall.1 hv
              obtain rfl := not_not.1 ht
              rw [htext]
              cases ht' : R.loads t with
              | none => rfl
              | some w => exact hagain t rfl w ht'

/-- No property is registered the way the fallback does it. -/
theorem settingOf_ne_manualSetting : settingOf R pinfo val ≠ some manualSetting := by
  have hcustom : ∀ ptype, some (customInput ptype) ≠ some manualSetting := fun ptype ↦ by
    simp [customInput, manualSetting, pyDict]
  have hdropdown : ∀ v, staticDropdown pinfo v ≠ some manualSetting := by
    intro v h
    have hplain : some (pyDict [("type", py "STATIC_DROPDOWN")]) ≠ some manualSetting := by
      simp only [manualSetting, pyDict, py, ne_eq, Option.some.injEq, PyValue.dict.injEq,
        List.map_cons, List.cons.injEq, Prod.mk.injEq, PyValue.str.injEq]
      decide
    have hchosen : ∀ valid : List PyValue,
        (if valid.isEmpty then some (pyDict [("type", py "STATIC_DROPDOWN")])
          else if !isHashable v then none
          else if valid.any v.eq then some (pyDict [("type", py "STATIC_DROPDOWN")])
          else some (customInput (py "STATIC_DROPDOWN"))) ≠ some manualSetting := by
      intro valid
      split
      · exact hplain
      · split
        · exact fun h ↦ absurd h (by simp)
        · split
          · exact hplain
          · exact hcustom _
    rw [staticDropdown] at h
    generalize (if pinfo.isDict = true then (pinfo.getD "options" (list [])).toOption.getD (list [])
      else list []) = opts at h
    split at h
    · obtain ⟨_, -, h⟩ := Option.bind_eq_some_iff.1 h
      obtain ⟨valid, -, h⟩ := Option.bind_eq_some_iff.1 h
      exact hchosen valid h
    · exact hchosen [] h
  rw [settingOf]
  split
  · exact hcustom _
  · rw [typeSetting]
    split
    · exact hcustom _
    · split
      · exact hdropdown _
      · exact fun h ↦ absurd h (by simp)

theorem or_manualSetting_injective {o o' : Option PyValue} (ho : o ≠ some manualSetting)
    (ho' : o' ≠ some manualSetting)
    (h : o.or (some manualSetting) = o'.or (some manualSetting)) : o = o' := by
  cases o with
  | none =>
    cases o' with
    | none => rfl
    | some v => exact absurd h.symm ho'
  | some v =>
    cases o' with
    | none => exact absurd h ho
    | some v' => exact h

/-! ### Two passes -/

/-- One pass is enough: it gives settings to the properties of the input, keeps the input's keys
and its references, and another pass changes nothing. -/
def SettlesInOnePass (R : PyRuntime) (props input : Fields) : Prop :=
  ∃ settings config, generatePropertySettings R (.dict props) input = .ok (settings, config) ∧
    (∀ key, key ∈ settings.map Prod.fst ↔ key ∈ input.map Prod.fst ∧ key ≠ text "auth") ∧
    config.map Prod.fst = input.map Prod.fst ∧
    (∀ key val, input.lookup key = some val → containsHandlebars val = true →
      config.lookup key = some val) ∧
    generatePropertySettings R (.dict props) config = .ok (settings, config)

/-- A property that a pass looks at, with its value. -/
def Configured (props input : Fields) (key : PyStr) (pinfo val : PyValue) : Prop :=
  key ≠ text "auth" ∧ props.lookup key = some pinfo ∧ input.lookup key = some val

theorem Configured.recastAt_eq (h : Configured props input key pinfo val) :
    recastAt R props key = recast R pinfo := by
  funext v
  rw [recastAt, if_neg h.1, h.2.1, Option.elim_some]

theorem Configured.settingAt_eq (h : Configured props input key pinfo val) :
    settingAt R props input key = settingOf R pinfo val := by
  rw [settingAt, if_neg h.1, h.2.1, Option.bind_some, h.2.2, Option.bind_some]

section Passes

variable (hprops : (props.map Prod.fst).Nodup) (hinput : (input.map Prod.fst).Nodup)
include hprops hinput

theorem Configured.next (h : Configured props input key pinfo val) :
    Configured props (propertyPass R props input).2 key pinfo (recast R pinfo val) := by
  refine ⟨h.1, h.2.1, ?_⟩
  rw [lookup_config hprops hinput, h.2.2, Option.map_some, h.recastAt_eq]

/-- A second pass changes nothing exactly when every value is cast for good. -/
theorem propertyPass_propertyPass_iff :
    propertyPass R props (propertyPass R props input).2 = propertyPass R props input ↔
      ∀ key pinfo val, Configured props input key pinfo val → CastForGood R pinfo val := by
  have hkeys : (propertyPass R props input).2.map Prod.fst = input.map Prod.fst :=
    keys_propertyPass hprops hinput
  have hconfig : ((propertyPass R props input).2.map Prod.fst).Nodup := hkeys ▸ hinput
  constructor
  · intro hsame key pinfo val h
    have hnext : Configured props (propertyPass R props input).2 key pinfo (recast R pinfo val) :=
      h.next hprops hinput
    constructor
    · have hvalue := lookup_config (R := R) hprops hconfig key
      rw [hsame, hnext.2.2, Option.map_some, h.recastAt_eq] at hvalue
      exact (Option.some.inj hvalue).symm
    · have hsetting := lookup_settings (R := R) hprops hconfig key
      have hkey : key ≠ text "auth" ∧ key ∈ input.map Prod.fst :=
        ⟨h.1, mem_keys_iff.2 ⟨val, h.2.2⟩⟩
      rw [hsame, hkeys, lookup_settings hprops hinput, if_pos hkey, h.settingAt_eq,
        hnext.settingAt_eq] at hsetting
      exact or_manualSetting_injective settingOf_ne_manualSetting settingOf_ne_manualSetting
        hsetting.symm
  · intro h
    have hagain : ∀ key, settingAt R props (propertyPass R props input).2 key =
          settingAt R props input key ∧
        ((propertyPass R props input).2.lookup key).map (recastAt R props key) =
          (propertyPass R props input).2.lookup key := by
      intro key
      have hvalue := lookup_config (R := R) hprops hinput key
      by_cases hauth : key = text "auth"
      · have hid : recastAt R props key = id := funext fun v ↦ if_pos hauth
        rw [settingAt, settingAt, if_pos hauth, if_pos hauth, hid, Option.map_id]
        exact ⟨rfl, rfl⟩
      · cases hpinfo : props.lookup key with
        | none =>
          have hnot : key ∉ props.map Prod.fst := fun hmem ↦ by
            obtain ⟨pinfo, h'⟩ := mem_keys_iff.1 hmem
            rw [hpinfo] at h'
            exact absurd h' (by simp)
          have hid : recastAt R props key = id := funext fun v ↦ recastAt_of_not_mem hnot
          rw [settingAt_of_not_mem hnot, settingAt_of_not_mem hnot, hid, Option.map_id]
          exact ⟨rfl, rfl⟩
        | some pinfo =>
          cases hval : input.lookup key with
          | none =>
            rw [hval, Option.map_none] at hvalue
            rw [settingAt, settingAt, hvalue, hval]
            exact ⟨rfl, rfl⟩
          | some val =>
            have hconf : Configured props input key pinfo val := ⟨hauth, hpinfo, hval⟩
            have hnext : Configured props (propertyPass R props input).2 key pinfo
                (recast R pinfo val) := hconf.next hprops hinput
            obtain ⟨hstable, hsetting⟩ := h key pinfo val hconf
            rw [hnext.settingAt_eq, hconf.settingAt_eq, hnext.2.2, Option.map_some,
              hconf.recastAt_eq, hstable]
            exact ⟨hsetting, rfl⟩
    have hsame : (propertyPass R props (propertyPass R props input).2).2 =
        (propertyPass R props input).2 := by
      have hkeys' := keys_propertyPass (R := R) hprops hconfig
      exact eq_of_lookup_eq hkeys' (hkeys' ▸ hconfig) fun key ↦
        (lookup_config hprops hconfig key).trans (hagain key).2
    refine Prod.ext ?_ hsame
    show manualSettings _ _ = manualSettings _ _
    rw [settings_congr hprops hconfig hinput fun key ↦ (hagain key).1]
    exact manualSettings_congr (congrArg (List.map Prod.fst) hsame)

/-- **One pass over the properties is enough exactly when every JSON text decodes for good.** -/
theorem settlesInOnePass_iff (hne : props ≠ []) :
    SettlesInOnePass R props input ↔ ∀ key pinfo s, Configured props input key pinfo (.str s) →
      (propertyType R pinfo).isStr (text "JSON") = true → isDynamic s = false →
      DecodesForGood R s := by
  have hlaw : SettlesInOnePass R props input ↔
      propertyPass R props (propertyPass R props input).2 = propertyPass R props input := by
    constructor
    · rintro ⟨settings, config, hfirst, -, -, -, hagain⟩
      rw [generatePropertySettings_dict hne] at hfirst hagain
      obtain hpass := Except.ok.inj hfirst
      rw [hpass]
      exact Except.ok.inj hagain
    · intro hagain
      refine ⟨_, _, generatePropertySettings_dict hne, fun key ↦ mem_settings_iff hprops hinput,
        keys_propertyPass hprops hinput, fun key val ↦ lookup_config_of_reference hprops hinput, ?_⟩
      exact (generatePropertySettings_dict hne).trans (congrArg Except.ok hagain)
  rw [hlaw, propertyPass_propertyPass_iff hprops hinput]
  constructor
  · intro h key pinfo s hconf hjson hplain
    exact castForGood_iff.1 (h key pinfo _ hconf) s rfl hjson hplain
  · intro h key pinfo val hconf
    refine castForGood_iff.2 fun s hs hjson hplain ↦ ?_
    subst hs
    exact h key pinfo s hconf hjson hplain

end Passes

end Runtime

/-! ### A text that decodes to a text -/

/-- A standard library that decodes a quoted 5 and a 5. -/
def fiveRuntime : PyRuntime :=
  { plainRuntime with
    loads := fun s ↦
      if s = text "\"5\"" then some (py "5") else if s = text "5" then some (.int 5) else none }

/-- An action whose `body` is JSON. -/
def bodyProps : Fields := [(text "body", pyDict [("type", py "JSON")])]

/-- The quoted 5 becomes a 5 in quotes first, and a number next. -/
theorem not_settlesInOnePass_quotedFive :
    ¬ SettlesInOnePass fiveRuntime bodyProps [(text "body", py "\"5\"")] := by
  rintro ⟨settings, config, hfirst, -, -, -, hagain⟩
  have hfive : generatePropertySettings fiveRuntime (.dict bodyProps)
      [(text "body", py "\"5\"")] =
        .ok ([(text "body", manualSetting)], [(text "body", py "5")]) := rfl
  have hnumber : generatePropertySettings fiveRuntime (.dict bodyProps)
      [(text "body", py "5")] =
        .ok ([(text "body", manualSetting)], [(text "body", .int 5)]) := rfl
  rw [hfive] at hfirst
  obtain ⟨-, rfl⟩ := Prod.mk.inj (Except.ok.inj hfirst)
  rw [hnumber] at hagain
  exact absurd (Prod.mk.inj (Except.ok.inj hagain)).2 (by simp [py])

/-- A 5 settles at once. -/
theorem settlesInOnePass_five : bodyProps ≠ [] ∧ (bodyProps.map Prod.fst).Nodup ∧
    SettlesInOnePass fiveRuntime bodyProps [(text "body", py "5")] := by
  refine ⟨by decide, by decide, (settlesInOnePass_iff (by decide) (by decide) (by decide)).2 ?_⟩
  rintro key pinfo s ⟨-, -, hval⟩ - - v hv
  have hs : s = text "5" := by
    rw [List.lookup_cons] at hval
    split at hval
    · exact (PyValue.str.inj (Option.some.inj hval)).symm
    · exact absurd hval (by simp)
  subst hs
  obtain rfl : PyValue.int 5 = v := Option.some.inj hv
  exact ⟨rfl, fun t ht ↦ absurd ht (by simp)⟩

end Siyadah
