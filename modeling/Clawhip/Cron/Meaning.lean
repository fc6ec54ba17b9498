import Clawhip.Cron.Schedule
import Clawhip.Lib.Outcome
import Clawhip.Lib.Wildcard

/-!
# What schedules mean

The strings that `CronSchedule::parse` of `src/cron.rs` accepts, and the times that
`CronSchedule::matches` finds in them: `reads_cron`. The rule for the days is about a field that is `*`;
one that only starts with `*` restricts as any other (`every_day_is_a_restriction`).
-/

namespace Clawhip.Cron

open List Option Text CronField

/-- A number within bounds. -/
def IsNumber (min max : ℕ) (text : String) (n : ℕ) : Prop := parseU8 text = some n ∧ min ≤ n ∧ n ≤ max

/-- What a part of a field names without a step. -/
inductive IsBase (min max : ℕ) : String → ℕ → ℕ → Prop
  | star : IsBase min max "*" min max
  | value {text : String} {n : ℕ} (h : IsNumber min max text n) : IsBase min max text n n
  | range {first last : String} {start stop : ℕ} (hstart : IsNumber min max first start)
    (hstop : IsNumber min max last stop) (hle : start ≤ stop) :
    IsBase min max (first ++ "-" ++ last) start stop

/-- A part of a field: from where to where it goes, and by which step. -/
inductive IsPart (min max : ℕ) : String → ℕ → ℕ → ℕ → Prop
  | plain {text : String} {start stop : ℕ} (h : IsBase min max text start stop) :
    IsPart min max text start stop 1
  | stepped {base by_step : String} {start stop step : ℕ} (h : IsBase min max base start stop)
    (hstep : IsNumber 1 255 by_step step) : IsPart min max (base ++ "/" ++ by_step) start stop step

/-- A comma list of such parts. -/
def IsField (min max : ℕ) (field : String) : Prop :=
  ∀ part ∈ Text.split field ",", ∃ start stop step, IsPart min max part start stop step

/-- A part of a field comes to a value. -/
def Denotes (min max : ℕ) (wrap_sunday : Bool) (field : String) (value : ℕ) : Prop :=
  ∃ part ∈ Text.split field ",", ∃ start stop step, IsPart min max part start stop step ∧
    ∃ i, start + i * step ≤ stop ∧ normalizeFieldValue (start + i * step) wrap_sunday = value

/-- A string with the five fields of a schedule. -/
def WellFormed (spec : String) : Prop :=
  ∃ minute hour day month weekday, splitWhitespace spec = [minute, hour, day, month, weekday] ∧
    IsField 0 59 minute ∧ IsField 0 23 hour ∧ IsField 1 31 day ∧ IsField 1 12 month ∧ IsField 0 7 weekday

/-- Fields denote a time. Where one of the fields for the day is `free`, both are to denote the day, otherwise
one of them. -/
def FieldsMean (free : String → Prop) (minute hour day month weekday : String) (t : LocalTime) : Prop :=
  Denotes 0 59 false minute t.minute ∧ Denotes 0 23 false hour t.hour ∧ Denotes 1 12 false month t.month ∧
    ((free day ∨ free weekday) ∧ Denotes 1 31 false day t.day ∧ Denotes 0 7 true weekday t.weekday ∨
      ¬ (free day ∨ free weekday) ∧ (Denotes 1 31 false day t.day ∨ Denotes 0 7 true weekday t.weekday))

/-- The fields of a schedule denote a time. -/
def Means (free : String → Prop) (spec : String) (t : LocalTime) : Prop :=
  ∃ minute hour day month weekday, splitWhitespace spec = [minute, hour, day, month, weekday] ∧
    FieldsMean free minute hour day month weekday t

/-- What `OffsetDateTime` promises of its parts. -/
structure LocalTime.Valid (t : LocalTime) : Prop where
  minute : t.minute ≤ 59
  hour : t.hour ≤ 23
  day : 1 ≤ t.day ∧ t.day ≤ 31
  month : 1 ≤ t.month ∧ t.month ≤ 12
  weekday : t.weekday ≤ 6

/-- A string is accepted if it is well formed, and then matches what it means. -/
structure ReadsCron (free : String → Prop) (spec : String) : Prop where
  accepts : (∃ schedule, CronSchedule.parse spec = .ok schedule) ↔ WellFormed spec
  matched : ∀ schedule, CronSchedule.parse spec = .ok schedule → ∀ t : LocalTime, t.Valid →
    (schedule.matches t = true ↔ Means free spec t)

/-! ## Pieces -/

/-- No white space. -/
def Solid (text : String) : Prop := ∀ c ∈ text.toList, Text.isWhitespace c = false

variable {separator : Char}

theorem splitOnce_of_not_mem {value : String} (h : separator ∉ value.toList) : splitOnce value separator = none := by
  have hgo (acc l : List Char) (h : separator ∉ l) : splitOnceGo separator acc l = none := by
    induction l generalizing acc with
    | nil => rfl
    | cons c l ih =>
      rw [mem_cons, not_or] at h
      rw [splitOnceGo, if_neg (Ne.symm h.1), ih _ h.2]
  exact map_eq_none_iff.mpr (hgo [] _ h)

theorem of_splitOnce {value before after : String}
    (h : splitOnce value separator = some (before, after)) : value = before ++ separator.toString ++ after := by
  by_cases hmem : separator ∈ value.toList
  · obtain ⟨front, rest, hvalue, hnot⟩ := eq_append_cons_of_mem hmem
    obtain rfl : value = .ofList front ++ separator.toString ++ .ofList rest :=
      String.toList_injective (by simp [Char.toString, hvalue])
    rw [splitOnce_append (by simpa using hnot)] at h
    cases h
    rfl
  · cases (splitOnce_of_not_mem hmem).symm.trans h

variable {text : String}

theorem trim_of_solid (h : Solid text) : trim text = text :=
  trim_eq_self (fun c hc => h c (mem_of_mem_head? hc)) fun c hc => h c (mem_of_getLast? hc)

variable {n : ℕ}

/-- What a number is written with. -/
theorem mem_number (h : parseU8 text = some n) : ∀ c ∈ text.toList, c.isDigit = true ∨ c = '+' := by
  have hdigits {digits : List Char} {n : ℕ} (h : digitsToU64 digits = some n) : ∀ c ∈ digits, c.isDigit = true := by
    unfold digitsToU64 at h
    dsimp only at h
    split_ifs at h with hbad
    simp only [Bool.or_eq_true, not_or, Bool.not_eq_true, Bool.not_eq_false'] at hbad
    exact all_eq_true.mp (by simpa using hbad.1.2)
  obtain ⟨hparse, -⟩ := filter_eq_some_iff.mp h
  unfold parseU64 at hparse
  split at hparse
  · rename_i digits htext
    rw [htext]
    exact forall_mem_cons.mpr ⟨.inr rfl, fun c hc => .inl (hdigits hparse c hc)⟩
  · exact fun c hc => .inl (hdigits hparse c hc)

/-! ## Parts -/

section

variable {min max : ℕ} {text field : String} {wrap_sunday : Bool} {start stop : ℕ}

theorem parseFieldValue_iff (h : Solid text) : parseFieldValue text min max = .ok n ↔ IsNumber min max text n := by
  unfold parseFieldValue IsNumber
  rw [trim_of_solid h]
  cases parseU8 text with
  | none => simp
  | some value =>
    dsimp only
    split_ifs with hbounds
    · exact ⟨fun h => Except.ok.inj h ▸ ⟨rfl, hbounds⟩, fun h => congrArg _ (some.inj h.1)⟩
    · exact ⟨nofun, fun h => absurd (some.inj h.1 ▸ h.2) hbounds⟩

theorem IsNumber.not_mem (h : IsNumber min max text n) {c : Char} (hdigit : c.isDigit = false)
    (hplus : c ≠ '+') : c ∉ text.toList := fun hc =>
  (mem_number h.1 c hc).elim (fun h => absurd h (by simp [hdigit])) hplus

theorem Solid.of_append {before separator after : String} (h : Solid (before ++ separator ++ after)) :
    Solid before ∧ Solid after :=
  ⟨fun c hc => h c (by simp [hc]), fun c hc => h c (by simp [hc])⟩

theorem parseRange_iff (h : Solid text) (hle : min ≤ max) :
    parseRange text min max = .ok (start, stop) ∧ start ≤ stop ↔ IsBase min max text start stop := by
  unfold parseRange
  constructor
  · rintro ⟨hparse, horder⟩
    split_ifs at hparse with hstar
    · cases hparse
      exact hstar ▸ .star
    · cases hcut : splitOnce text '-' with
      | none =>
        rw [hcut] at hparse
        obtain ⟨value, hvalue, ⟨⟩⟩ := bind_eq_ok.mp hparse
        exact .value ((parseFieldValue_iff h).mp hvalue)
      | some cut =>
        rw [hcut] at hparse
        obtain ⟨first, hfirst, hparse⟩ := bind_eq_ok.mp hparse
        obtain ⟨last, hlast, ⟨⟩⟩ := bind_eq_ok.mp hparse
        obtain rfl := of_splitOnce hcut
        obtain ⟨hbefore, hafter⟩ := h.of_append
        exact .range ((parseFieldValue_iff hbefore).mp hfirst) ((parseFieldValue_iff hafter).mp hlast) horder
  · intro hbase
    cases hbase with
    | star => exact ⟨rfl, hle⟩
    | value hn =>
      have hstar : text ≠ "*" := by
        rintro rfl
        exact hn.not_mem (c := '*') (by decide) (by decide) (mem_singleton_self _)
      rw [if_neg hstar, splitOnce_of_not_mem (hn.not_mem (by decide) (by decide))]
      exact ⟨bind_eq_ok.mpr ⟨_, (parseFieldValue_iff h).mpr hn, rfl⟩, le_rfl⟩
    | @range first last _ _ hstart hstop horder =>
      have hstar : first ++ "-" ++ last ≠ "*" := fun hstar => by
        have hdash : '-' ∈ "*".toList := hstar ▸ by simp
        exact absurd hdash (by decide)
      obtain ⟨hbefore, hafter⟩ := h.of_append
      have hcut : splitOnce (first ++ "-" ++ last) '-' = some (first, last) :=
        splitOnce_append (hstart.not_mem (by decide) (by decide)) last
      rw [if_neg hstar, hcut]
      exact ⟨bind_eq_ok.mpr ⟨_, (parseFieldValue_iff hbefore).mpr hstart,
        bind_eq_ok.mpr ⟨_, (parseFieldValue_iff hafter).mpr hstop, rfl⟩⟩, horder⟩

/-- No part has a slash before its step. -/
theorem IsBase.no_slash (h : IsBase min max text start stop) : '/' ∉ text.toList := by
  cases h with
  | star => decide
  | value h => exact h.not_mem (by decide) (by decide)
  | range hstart hstop _ =>
    simpa using ⟨hstart.not_mem (c := '/') (by decide) (by decide), hstop.not_mem (c := '/') (by decide) (by decide)⟩

variable {step : ℕ}

theorem of_parseStep {base : String} (h : parseStep text = .ok (base, step)) :
    base = text ∧ step = 1 ∨ ∃ by_step, text = base ++ "/" ++ by_step ∧ IsNumber 1 255 by_step step := by
  unfold parseStep at h
  cases hcut : splitOnce text '/' with
  | none =>
    rw [hcut] at h
    cases h
    exact .inl ⟨rfl, rfl⟩
  | some cut =>
    rw [hcut] at h
    dsimp only at h
    split at h
    · cases h
    · cases h
    · rename_i hzero hparse
      cases h
      have hlt : step < 256 := by simpa using (filter_eq_some_iff.mp hparse).2
      exact .inr ⟨cut.2, of_splitOnce hcut, hparse,
        Nat.one_le_iff_ne_zero.mpr fun hn => hzero hn, Nat.le_of_lt_succ hlt⟩

theorem parseStep_of_stepped {by_step : String} (hslash : '/' ∉ text.toList)
    (hstep : IsNumber 1 255 by_step step) : parseStep (text ++ "/" ++ by_step) = .ok (text, step) := by
  obtain ⟨hparse, hpos, -⟩ := hstep
  have hcut : splitOnce (text ++ "/" ++ by_step) '/' = some (text, by_step) :=
    splitOnce_append hslash by_step
  rw [parseStep, hcut]
  dsimp only
  rw [hparse]
  cases step with
  | zero => cases hpos
  | succ n => rfl

/-- The values of a part. -/
def valuesOf (start stop step : ℕ) (wrap_sunday : Bool) : List ℕ :=
  (range ((stop - start) / step + 1)).map fun i => normalizeFieldValue (start + i * step) wrap_sunday

theorem IsPart.ne_empty (h : IsPart min max text start stop step) : text ≠ "" := by
  cases h with
  | stepped _ _ => simp
  | plain h =>
    cases h with
    | star => decide
    | value h =>
      rintro rfl
      exact nomatch (show parseU8 "" = none by decide).symm.trans h.1
    | range _ _ _ => simp

variable {spec : String}

theorem parsePart_iff {values : List ℕ} (h : Solid text) (hle : min ≤ max) :
    parsePart spec text min max wrap_sunday = .ok values ↔ ∃ start stop step,
      IsPart min max text start stop step ∧ values = valuesOf start stop step wrap_sunday := by
  unfold parsePart
  rw [trim_of_solid h]
  constructor
  · intro hparse
    dsimp only at hparse
    split_ifs at hparse with hempty
    · obtain ⟨_, hthrow, -⟩ := bind_eq_ok.mp hparse
      cases hthrow
    · obtain ⟨⟨base, step⟩, hstep, hparse⟩ := bind_eq_ok.mp hparse
      obtain ⟨⟨start, stop⟩, hrange, hparse⟩ := bind_eq_ok.mp hparse
      split_ifs at hparse with horder
      · obtain ⟨_, hthrow, -⟩ := bind_eq_ok.mp hparse
        cases hthrow
      · refine ⟨start, stop, step, ?_, (Except.ok.inj hparse).symm⟩
        rcases of_parseStep hstep with ⟨rfl, rfl⟩ | ⟨by_step, htext, hnumber⟩
        · exact .plain ((parseRange_iff h hle).mp ⟨hrange, not_lt.mp horder⟩)
        · subst htext
          exact .stepped ((parseRange_iff h.of_append.1 hle).mp ⟨hrange, not_lt.mp horder⟩) hnumber
  · rintro ⟨start, stop, step, hpart, rfl⟩
    obtain ⟨base, hstep, hrange, horder⟩ : ∃ base, parseStep text = .ok (base, step) ∧
        parseRange base min max = .ok (start, stop) ∧ start ≤ stop := by
      cases hpart with
      | plain hbase =>
        refine ⟨text, ?_, (parseRange_iff h hle).mpr hbase⟩
        rw [parseStep, splitOnce_of_not_mem hbase.no_slash]
      | stepped hbase hnumber =>
        exact ⟨_, parseStep_of_stepped hbase.no_slash hnumber, (parseRange_iff h.of_append.1 hle).mpr hbase⟩
    rw [if_neg (by simpa using hpart.ne_empty)]
    exact bind_eq_ok.mpr ⟨_, hstep, bind_eq_ok.mpr ⟨_, hrange, if_neg (not_lt.mpr horder)⟩⟩

theorem mem_valuesOf {step value : ℕ} (hle : min ≤ max) (h : IsPart min max text start stop step) :
    value ∈ valuesOf start stop step wrap_sunday ↔
      ∃ i, start + i * step ≤ stop ∧ normalizeFieldValue (start + i * step) wrap_sunday = value := by
  have hbase {base : String} (h : IsBase min max base start stop) : start ≤ stop := by
    cases h with
    | star => exact hle
    | value _ => exact le_rfl
    | range _ _ horder => exact horder
  obtain ⟨hpos, horder⟩ : 0 < step ∧ start ≤ stop := by
    cases h with
    | plain h => exact ⟨Nat.one_pos, hbase h⟩
    | stepped h hstep => exact ⟨hstep.2.1, hbase h⟩
  unfold valuesOf
  rw [List.mem_map]
  refine exists_congr fun i => and_congr_left fun _ => ?_
  rw [mem_range, Nat.lt_succ_iff, Nat.le_div_iff_mul_le hpos]
  omega

/-! ## Fields -/

theorem mem_splitOnP {α : Type} {p : α → Bool} {l piece : List α} (h : piece ∈ l.splitOnP p) :
    ∀ a ∈ piece, a ∈ l ∧ p a = false := by
  induction l generalizing piece with
  | nil =>
    rw [splitOnP_nil, mem_singleton] at h
    simp [h]
  | cons b l ih =>
    have ih' {piece : List α} (h : piece ∈ l.splitOnP p) : ∀ a ∈ piece, a ∈ b :: l ∧ p a = false :=
      fun a ha => (ih h a ha).imp_left (mem_cons_of_mem b)
    rw [splitOnP_cons_eq_if_modifyHead] at h
    split_ifs at h with hb
    · rcases mem_cons.mp h with rfl | h
      · exact fun _ ha => absurd ha not_mem_nil
      · exact ih' h
    · cases hcut : l.splitOnP p with
      | nil => exact absurd hcut (splitOnP_ne_nil p l)
      | cons first rest =>
        rw [hcut] at ih' h
        rcases mem_cons.mp h with rfl | h
        · exact forall_mem_cons.mpr ⟨⟨mem_cons_self, Bool.eq_false_iff.mpr hb⟩, ih' mem_cons_self⟩
        · exact ih' (mem_cons_of_mem _ h)

theorem piecesOf_eq_splitOnP (c : Char) (l : List Char) : piecesOf c l = l.splitOnP (· = c) := by
  induction l with
  | nil => rfl
  | cons a l ih =>
    rw [splitOnP_cons_eq_if_modifyHead, ← ih, piecesOf]
    cases hpieces : piecesOf c l with
    | nil => exact absurd hpieces (piecesOf_ne_nil c l)
    | cons => simp

theorem solid_of_mem_split (h : Solid field) {part : String} (hpart : part ∈ split field ",") : Solid part := by
  obtain ⟨piece, hpiece, rfl⟩ := mem_map.mp hpart
  have hpiece' : piece ∈ field.toList.splitOnP (· = ',') :=
    piecesOf_eq_splitOnP _ _ ▸ splitGo_eq_piecesOf ',' field.toList ▸ hpiece
  intro c hc
  rw [String.toList_ofList] at hc
  exact h c (mem_splitOnP hpiece' c hc).1

theorem split_ne_nil : split field "," ≠ [] := by
  obtain ⟨first, pieces, -, hsplit⟩ := splitGo_singleton ',' field.toList []
  exact fun h => cons_ne_nil _ _ (hsplit.symm.trans (map_eq_nil_iff.mp h))

/-- A field is parsed to the values of its parts. -/
theorem parse_eq_ok {parsed : CronField} (hsolid : Solid field) (hne : field ≠ "") (hstar : field ≠ "*")
    (hle : min ≤ max) : parse field min max wrap_sunday = .ok parsed ↔ ∃ allowed,
      (split field ",").mapM (fun part => parsePart field part min max wrap_sunday) = .ok allowed ∧
        parsed = ⟨false, allowed.flatten⟩ := by
  unfold parse
  rw [trim_of_solid hsolid]
  rw [if_neg (by simpa using hne), if_neg hstar]
  constructor
  · intro h
    obtain ⟨allowed, hmap, h⟩ := bind_eq_ok.mp h
    split_ifs at h
    · cases h
    · exact ⟨allowed, hmap, (Except.ok.inj h).symm⟩
  · rintro ⟨allowed, hmap, rfl⟩
    refine bind_eq_ok.mpr ⟨allowed, hmap, if_neg ?_⟩
    obtain ⟨part, hpart⟩ := exists_mem_of_ne_nil _ (@split_ne_nil field)
    obtain ⟨values, hvalues, hparse⟩ := exists_of_mem_left (mapM_eq_ok.mp hmap) hpart
    obtain ⟨start, stop, step, -, rfl⟩ := (parsePart_iff (solid_of_mem_split hsolid hpart) hle).mp hparse
    intro hempty
    have hnil := flatten_eq_nil_iff.mp (isEmpty_iff.mp hempty) _ hvalues
    simp [valuesOf] at hnil

/-- A field is accepted if it is well formed, and then contains what it denotes. -/
structure Reads (min max : ℕ) (wrap_sunday : Bool) (field : String) : Prop where
  accepts : (∃ parsed, CronField.parse field min max wrap_sunday = .ok parsed) ↔ IsField min max field
  matched : ∀ parsed, CronField.parse field min max wrap_sunday = .ok parsed →
    (parsed.any = true ↔ field = "*") ∧
    ∀ value, min ≤ value → value ≤ max → normalizeFieldValue value wrap_sunday = value →
      (parsed.contains value = true ↔ Denotes min max wrap_sunday field value)

theorem reads (hsolid : Solid field) (hne : field ≠ "") (hle : min ≤ max) : Reads min max wrap_sunday field := by
  by_cases hstar : field = "*"
  · subst hstar
    have hsplit : split "*" "," = ["*"] := by decide
    have hparse : CronField.parse "*" min max wrap_sunday = .ok ⟨true, []⟩ := rfl
    refine ⟨iff_of_true ⟨_, hparse⟩ fun part hpart => ?_, ?_⟩
    · rw [hsplit] at hpart
      exact ⟨min, max, 1, mem_singleton.mp hpart ▸ .plain .star⟩
    · rintro _ ⟨⟩
      refine ⟨iff_of_true rfl rfl, fun value hmin hmax hwrap => iff_of_true rfl ?_⟩
      have hvalue : min + (value - min) * 1 = value := by omega
      exact ⟨"*", hsplit ▸ mem_singleton_self _, min, max, 1, .plain .star, value - min,
        by omega, by rw [hvalue, hwrap]⟩
  · have hpart {part : String} (hmem : part ∈ split field ",") {values : List ℕ} :=
      @parsePart_iff min max part wrap_sunday field values (solid_of_mem_split hsolid hmem) hle
    constructor
    · constructor
      · rintro ⟨parsed, h⟩ part hmem
        obtain ⟨allowed, hmap, -⟩ := (parse_eq_ok hsolid hne hstar hle).mp h
        obtain ⟨values, hparse⟩ := ok_of_mem_mapM hmap hmem
        obtain ⟨start, stop, step, h, -⟩ := (hpart hmem).mp hparse
        exact ⟨start, stop, step, h⟩
      · intro h
        have hparts : ∀ part ∈ split field ",", ∃ values,
            parsePart field part min max wrap_sunday = .ok values := fun part hmem => by
          obtain ⟨start, stop, step, hpart'⟩ := h part hmem
          exact ⟨_, (hpart hmem).mpr ⟨start, stop, step, hpart', rfl⟩⟩
        choose! valuesIn hvalues using hparts
        exact ⟨_, (parse_eq_ok hsolid hne hstar hle).mpr ⟨_, mapM_eq_ok.mpr
          (forall₂_map_right_iff.mpr (forall₂_same.mpr hvalues)), rfl⟩⟩
    · intro parsed h
      obtain ⟨allowed, hmap, rfl⟩ := (parse_eq_ok hsolid hne hstar hle).mp h
      refine ⟨iff_of_false Bool.false_ne_true hstar, fun value _ _ _ => ?_⟩
      have hcontains : CronField.contains ⟨false, allowed.flatten⟩ value = true ↔
          ∃ values ∈ allowed, value ∈ values := by
        simp [CronField.contains]
      rw [hcontains]
      constructor
      · rintro ⟨values, hvalues, hvalue⟩
        obtain ⟨part, hmem, hparse⟩ := exists_of_mem_left (mapM_eq_ok.mp hmap).flip hvalues
        obtain ⟨start, stop, step, h, rfl⟩ := (hpart hmem).mp hparse
        exact ⟨part, hmem, start, stop, step, h, (mem_valuesOf hle h).mp hvalue⟩
      · rintro ⟨part, hmem, start, stop, step, h, hvalue⟩
        obtain ⟨values, hvalues, hparse⟩ := exists_of_mem_left (mapM_eq_ok.mp hmap) hmem
        refine ⟨values, hvalues, ?_⟩
        rw [Except.ok.inj (hparse.symm.trans ((hpart hmem).mpr ⟨start, stop, step, h, rfl⟩))]
        exact (mem_valuesOf hle h).mpr hvalue

theorem solid_of_mem_splitWhitespace (h : field ∈ splitWhitespace spec) : Solid field ∧ field ≠ "" := by
  obtain ⟨piece, hpiece, rfl⟩ := mem_map.mp h
  obtain ⟨hcut, hne⟩ := mem_filter.mp hpiece
  unfold Solid
  rw [String.toList_ofList]
  refine ⟨fun c hc => (mem_splitOnP hcut c hc).2, fun hempty => ?_⟩
  have hnil : piece = [] := by simpa using hempty
  simp [hnil] at hne

end

/-- A schedule is parsed field by field. -/
theorem parse_iff {spec : String} {schedule : CronSchedule} : CronSchedule.parse spec = .ok schedule ↔
    ∃ minute hour day month weekday, splitWhitespace spec = [minute, hour, day, month, weekday] ∧
      parse minute 0 59 false = .ok schedule.minute ∧ parse hour 0 23 false = .ok schedule.hour ∧
      parse day 1 31 false = .ok schedule.day_of_month ∧ parse month 1 12 false = .ok schedule.month ∧
      parse weekday 0 7 true = .ok schedule.day_of_week := by
  unfold CronSchedule.parse
  split
  · rename_i minute hour day month weekday hfields
    simp only [bind_eq_ok]
    constructor
    · rintro ⟨_, hminute, _, hhour, _, hday, _, hmonth, _, hweekday, h⟩
      obtain rfl := Except.ok.inj h
      exact ⟨_, _, _, _, _, hfields, hminute, hhour, hday, hmonth, hweekday⟩
    · rintro ⟨_, _, _, _, _, hsame, hminute, hhour, hday, hmonth, hweekday⟩
      obtain ⟨rfl, rfl, rfl, rfl, rfl⟩ : _ ∧ _ ∧ _ ∧ _ ∧ _ := by simpa using hfields.symm.trans hsame
      exact ⟨_, hminute, _, hhour, _, hday, _, hmonth, _, hweekday, rfl⟩
  · rename_i hnone
    exact ⟨nofun, fun ⟨_, _, _, _, _, hfields, _⟩ => absurd hfields (hnone _ _ _ _ _)⟩

/-- Every string is read as it is meant, where a field for the day is free if it is `*`. -/
theorem reads_cron (spec : String) : ReadsCron (· = "*") spec := by
  have hreads {minute hour day month weekday : String}
      (h : splitWhitespace spec = [minute, hour, day, month, weekday]) :
      Reads 0 59 false minute ∧ Reads 0 23 false hour ∧ Reads 1 31 false day ∧ Reads 1 12 false month ∧
        Reads 0 7 true weekday := by
    have hall := fun field hmem => solid_of_mem_splitWhitespace (h ▸ hmem : field ∈ splitWhitespace spec)
    simp only [forall_mem_cons] at hall
    obtain ⟨h1, h2, h3, h4, h5, -⟩ := hall
    exact ⟨reads h1.1 h1.2 (by decide), reads h2.1 h2.2 (by decide), reads h3.1 h3.2 (by decide),
      reads h4.1 h4.2 (by decide), reads h5.1 h5.2 (by decide)⟩
  constructor
  · constructor
    · rintro ⟨schedule, h⟩
      obtain ⟨_, _, _, _, _, hfields, h1, h2, h3, h4, h5⟩ := parse_iff.mp h
      obtain ⟨r1, r2, r3, r4, r5⟩ := hreads hfields
      exact ⟨_, _, _, _, _, hfields, r1.accepts.mp ⟨_, h1⟩, r2.accepts.mp ⟨_, h2⟩, r3.accepts.mp ⟨_, h3⟩,
        r4.accepts.mp ⟨_, h4⟩, r5.accepts.mp ⟨_, h5⟩⟩
    · rintro ⟨_, _, _, _, _, hfields, h1, h2, h3, h4, h5⟩
      obtain ⟨r1, r2, r3, r4, r5⟩ := hreads hfields
      obtain ⟨_, h1⟩ := r1.accepts.mpr h1
      obtain ⟨_, h2⟩ := r2.accepts.mpr h2
      obtain ⟨_, h3⟩ := r3.accepts.mpr h3
      obtain ⟨_, h4⟩ := r4.accepts.mpr h4
      obtain ⟨_, h5⟩ := r5.accepts.mpr h5
      exact ⟨⟨_, _, _, _, _⟩, parse_iff.mpr ⟨_, _, _, _, _, hfields, h1, h2, h3, h4, h5⟩⟩
  · intro schedule h t ht
    obtain ⟨minute, hour, day, month, weekday, hfields, h1, h2, h3, h4, h5⟩ := parse_iff.mp h
    obtain ⟨r1, r2, r3, r4, r5⟩ := hreads hfields
    have hsunday : normalizeFieldValue t.weekday true = t.weekday := by
      have hle := ht.weekday
      unfold normalizeFieldValue
      rw [if_neg (by simp; omega)]
    have hminute := (r1.matched _ h1).2 _ (Nat.zero_le _) ht.minute rfl
    have hhour := (r2.matched _ h2).2 _ (Nat.zero_le _) ht.hour rfl
    obtain ⟨hany, hday⟩ := r3.matched _ h3
    have hmonth := (r4.matched _ h4).2 _ ht.month.1 ht.month.2 rfl
    obtain ⟨hany', hweekday⟩ := r5.matched _ h5
    have hmeans {free : String → Prop} : Means free spec t ↔ FieldsMean free minute hour day month weekday t := by
      simp [Means, hfields]
    rw [hmeans, FieldsMean, ← hminute, ← hhour, ← hmonth, ← hday _ ht.day.1 ht.day.2 rfl,
      ← hweekday _ (Nat.zero_le _) (ht.weekday.trans (by decide)) hsunday, ← hany, ← hany']
    unfold CronSchedule.matches
    by_cases hfree : schedule.day_of_month.any = true ∨ schedule.day_of_week.any = true
    all_goals simp [hfree, and_assoc]

namespace Sample

/-- Every day or on Mondays matches a Tuesday. -/
theorem every_day_is_a_restriction :
    ¬ ∀ spec, ReadsCron (fun field => Text.startsWith field "*" = true) spec := by
  intro h
  obtain ⟨schedule, hparse, hmatches⟩ : ∃ schedule, CronSchedule.parse "0 0 */1 * 1" = .ok schedule ∧
      schedule.matches ⟨0, 0, 2, 1, 2⟩ = true := ⟨_, rfl, by decide⟩
  obtain ⟨_, _, day, _, weekday, hfields, -, -, -, hdays⟩ := ((h _).matched schedule hparse ⟨0, 0, 2, 1, 2⟩
    ⟨by decide, by decide, by decide, by decide, by decide⟩).mp hmatches
  have hsplit : splitWhitespace "0 0 */1 * 1" = ["0", "0", "*/1", "*", "1"] := by decide +kernel
  obtain ⟨-, -, rfl, -, rfl⟩ : _ ∧ _ ∧ "*/1" = day ∧ _ ∧ "1" = weekday := by
    simpa using hsplit.symm.trans hfields
  rcases hdays with ⟨-, -, hweekday⟩ | ⟨hfree, -⟩
  · have hmonday : CronField.parse "1" 0 7 true = .ok ⟨false, [1]⟩ := by decide +kernel
    have hsolid : Solid "1" := fun c hc => by
      obtain rfl : c = '1' := by simpa using hc
      decide
    have hread := (reads hsolid (by decide) (Nat.zero_le 7)).matched _ hmonday
    exact absurd ((hread.2 2 (by decide) (by decide) rfl).mpr hweekday) (by decide)
  · exact hfree (.inl (by decide))

end Sample

end Clawhip.Cron
