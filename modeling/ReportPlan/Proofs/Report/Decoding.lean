import ReportPlan.Proofs.Calendar.TimestampText
import ReportPlan.Proofs.Json.RoundTrip
import ReportPlan.Proofs.Lists
import ReportPlan.Proofs.Saved.UuidText
import ReportPlan.Saved.Encoding

/-! # Reports read back

A report that is written as JSON, in either form, is read as the same report, and so is a saved
report that holds it. Only the numbers of filters may be changed on the way: a number is written
with the fewest digits that are nearest to it, and read by a faster rule that is not always exact.

* `Binary64.SurvivesJson`: the reader of numbers gives a number back from its text.
* `Report.ofJson?_toJson`, `SavedReport.ofJson?_toJson`: the values read back.
* `Report.numbersSurvive`, `SavedReport.numbersSurvive`: so are all numbers in their texts.
* `report_roundTrip`: the texts read back.
-/

set_option autoImplicit false

namespace ReportPlan

open Json (asText? asList? optional? ofTexts NumbersSurvive)

/-! ## Parts of a report -/

/-- A value of an enumeration is read from its name. -/
theorem Naming.named?_text {α : Type} (names : Naming α) (a : α) :
    Json.named? names.ofName? (.text (names.name a)) = some a :=
  names.ofName?_name a

theorem asTexts?_ofTexts (items : List String) : (ofTexts items).asList? asText? = some items :=
  mapM_map_eq_some fun _ _ => rfl

theorem Operand.ofJson?_toJson {o : Operand} (h : ∀ x, o = .number x → x.isFinite = true) :
    ofJson? o.toJson = some o := by
  cases o with
  | number x => rw [toJson, Json.floating, if_pos (h x rfl), ofJson?, Json.Numeral.value]
  | text s => rfl
  | texts items =>
    have hitems : (items.map Json.text).mapM asText? = some items :=
      mapM_map_eq_some fun _ _ => rfl
    rw [toJson, ofTexts, ofJson?, hitems, Option.map_some]

theorem Filter.ofJson?_toJson {f : Filter} (h : ∀ x, f.value = .number x → x.isFinite = true) :
    ofJson? f.toJson = some f := by
  have hfields : f.toJson.fields? ["field", "operator", "value"] =
      some [some (.text f.field), some f.operator.toJson, some f.value.toJson] := by
    simp [toJson, Json.fields?, Json.get?]
  have hoperator : Operator.ofJson? f.operator.toJson = some f.operator :=
    Operator.naming.named?_text f.operator
  simp only [ofJson?, hfields, asText?, hoperator, Operand.ofJson?_toJson h, Option.bind_eq_bind,
    Option.bind_some]

theorem Instant.ofJson?_toJson (i : Instant) : ofJson? i.toJson = some i := by
  rw [toJson, ofJson?, String.toList_ofList, Timestamp.readLenient?_text]

/-- A field that is written as null, or left out, when it is absent. -/
theorem optional?_map {α : Type} {read? : Json → Option α} {write : α → Json}
    (h : ∀ a, read? (write a) = some a) (hnull : ∀ a, write a ≠ .null) (o : Option α) :
    optional? read? (o.map write) = some o := by
  cases o with
  | none => rfl
  | some a =>
    rw [Option.map_some]
    unfold optional?
    split
    · rename_i heq
      cases heq
    · rename_i heq
      exact absurd (Option.some.inj heq) (hnull a)
    · rename_i heq
      cases heq
      rw [h a, Option.map_some]

theorem Window.ofJson?_toJson (w : Window) : ofJson? w.toJson = some w := by
  have hbound : ∀ b : Option Instant,
      optional? Instant.ofJson? (some ((b.map Instant.toJson).getD .null)) = some b := by
    intro b
    cases b with
    | none => rfl
    | some i => exact optional?_map Instant.ofJson?_toJson (fun _ h => nomatch h) (some i)
  have hfields : w.toJson.fields? ["start", "end"] =
      some [some ((w.start.map Instant.toJson).getD .null),
        some ((w.stop.map Instant.toJson).getD .null)] := by
    simp [toJson, Json.fields?, Json.get?]
  simp only [ofJson?, hfields, hbound, Option.bind_eq_bind, Option.bind_some]

theorem SortSpec.ofJson?_toJson (s : SortSpec) : ofJson? s.toJson = some s := by
  have hfields : s.toJson.fields? ["field", "direction"] =
      some [some (.text s.field), some s.direction.toJson] := by
    simp [toJson, Json.fields?, Json.get?]
  have hdirection : Direction.ofJson? s.direction.toJson = some s.direction :=
    Direction.naming.named?_text s.direction
  simp only [ofJson?, hfields, asText?, hdirection, Option.bind_eq_bind, Option.bind_some]

theorem limitOfJson?_integer (n : Fin (greatestLimit + 1)) :
    limitOfJson? (.integer (n.val : Int)) = some n := by
  show (if h : n.val < greatestLimit + 1 then some ⟨n.val, h⟩ else none) = some n
  rw [dif_pos n.isLt]

/-! ## Reports -/

/-- The numbers of the filters of a report. -/
def Report.numbers (r : Report) : List Binary64 :=
  r.filters.filterMap (·.value.asNumber)

theorem Report.mem_numbers {r : Report} {f : Filter} (hf : f ∈ r.filters) {x : Binary64}
    (hx : f.value = .number x) : x ∈ r.numbers :=
  List.mem_filterMap.2 ⟨f, hf, by rw [hx]; rfl⟩

/-- An entry is found under each key of a report, unless it was left out. -/
theorem Report.fields?_toJson (r : Report) :
    r.toJson.fields? keys =
      some [some r.reportType.toJson, some (.text r.name),
        some (.list (r.filters.map Filter.toJson)), some (ofTexts r.metrics),
        r.groupBy.map ofTexts, r.sortBy.map SortSpec.toJson,
        r.limit.map fun n => .integer (n.val : Int), some r.window.toJson,
        some (.list (r.aggregations.map Aggregation.toJson))] := by
  obtain ⟨type, name, filters, metrics, groupBy, sortBy, limit, window, aggregations⟩ := r
  cases groupBy <;> cases sortBy <;> cases limit <;>
    simp [toJson, entryIfPresent, Json.fields?, keys, Json.get?]

theorem Report.ofJson?_toJson {r : Report} (h : ∀ x ∈ r.numbers, x.isFinite = true) :
    ofJson? r.toJson = some r := by
  have hfilters : (Json.list (r.filters.map Filter.toJson)).asList? Filter.ofJson? =
      some r.filters :=
    mapM_map_eq_some fun f hf => Filter.ofJson?_toJson fun x hx => h x (mem_numbers hf hx)
  have haggregations : (Json.list (r.aggregations.map Aggregation.toJson)).asList?
      Aggregation.ofJson? = some r.aggregations :=
    mapM_map_eq_some fun a _ => Aggregation.naming.named?_text a
  have htype : ReportType.ofJson? r.reportType.toJson = some r.reportType :=
    ReportType.naming.named?_text r.reportType
  have hgroupBy : optional? (asList? asText?) (r.groupBy.map ofTexts) = some r.groupBy :=
    optional?_map asTexts?_ofTexts (fun _ h => nomatch h) _
  have hsortBy : optional? SortSpec.ofJson? (r.sortBy.map SortSpec.toJson) = some r.sortBy :=
    optional?_map SortSpec.ofJson?_toJson (fun _ h => nomatch h) _
  have hlimit : optional? limitOfJson? (r.limit.map fun n => .integer (n.val : Int)) =
      some r.limit :=
    optional?_map limitOfJson?_integer (fun _ h => nomatch h) _
  simp only [ofJson?, fields?_toJson, asText?, htype, hfilters,
    asTexts?_ofTexts, hgroupBy, hsortBy, hlimit, Window.ofJson?_toJson, haggregations,
    Option.bind_eq_bind, Option.bind_some]

theorem SavedReport.ofJson?_toJson {s : SavedReport}
    (h : ∀ x ∈ s.report.numbers, x.isFinite = true) : ofJson? s.toJson = some s := by
  have hid : Uuid.ofJson? s.id.toJson = some s.id := by
    rw [Uuid.toJson, Uuid.ofJson?, String.toList_ofList, Uuid.read?_text]
  have hfields : s.toJson.fields? ["id", "name", "query", "tags", "createdAt", "config"] =
      some [some s.id.toJson, some (.text s.name), some (.text s.query), some (ofTexts s.tags),
        some s.created.toJson, some s.report.toJson] := by
    simp [toJson, Json.fields?, Json.get?]
  simp only [ofJson?, hfields, hid, asText?, asTexts?_ofTexts, Instant.ofJson?_toJson,
    Report.ofJson?_toJson h, Option.bind_eq_bind, Option.bind_some]

/-! ## Numbers in reports -/

/-- Whether the reader of numbers gives a number back from its text. -/
def Binary64.SurvivesJson (x : Binary64) : Prop :=
  ∃ n, Json.Numeral.read? (Json.Numeral.floating x).text = some (n, []) ∧ n.value = x

theorem Binary64.SurvivesJson.numeral {x : Binary64} (h : x.SurvivesJson)
    (hfinite : x.isFinite = true) : (Json.Numeral.floating x).Survives := by
  obtain ⟨n, hread, hvalue⟩ := h
  exact Json.Numeral.survives_floating hfinite hread hvalue

theorem numbersSurvive_ofTexts (items : List String) : NumbersSurvive (ofTexts items).tokens := by
  refine Json.numbersSurvive_list fun j hj => ?_
  obtain ⟨s, -, rfl⟩ := List.mem_map.1 hj
  exact Json.numbersSurvive_text s

theorem Filter.numbersSurvive {f : Filter} (hfinite : ∀ x, f.value = .number x → x.isFinite = true)
    (hread : ∀ x, f.value = .number x → x.SurvivesJson) : NumbersSurvive f.toJson.tokens := by
  have hvalue : NumbersSurvive f.value.toJson.tokens := by
    cases hv : f.value with
    | number x =>
      rw [Operand.toJson, Json.floating, if_pos (hfinite x hv)]
      exact Json.numbersSurvive_number ((hread x hv).numeral (hfinite x hv))
    | text s => exact Json.numbersSurvive_text s
    | texts items => exact numbersSurvive_ofTexts items
  refine Json.numbersSurvive_object ?_
  simp only [List.forall_mem_cons, List.not_mem_nil, false_implies, implies_true, and_true]
  exact ⟨Json.numbersSurvive_text _, Json.numbersSurvive_text _, hvalue⟩

theorem Window.numbersSurvive (w : Window) : NumbersSurvive w.toJson.tokens := by
  have hbound : ∀ b : Option Instant,
      NumbersSurvive ((b.map Instant.toJson).getD Json.null).tokens := by
    intro b
    cases b with
    | none => exact Json.numbersSurvive_null
    | some i => exact Json.numbersSurvive_text _
  refine Json.numbersSurvive_object ?_
  simp only [List.forall_mem_cons, List.not_mem_nil, false_implies, implies_true, and_true]
  exact ⟨hbound w.start, hbound w.stop⟩

theorem SortSpec.numbersSurvive (s : SortSpec) : NumbersSurvive s.toJson.tokens := by
  refine Json.numbersSurvive_object ?_
  simp only [List.forall_mem_cons, List.not_mem_nil, false_implies, implies_true, and_true]
  exact ⟨Json.numbersSurvive_text _, Json.numbersSurvive_text _⟩

theorem forall_mem_entryIfPresent {key : String} {o : Option Json} {P : String × Json → Prop} :
    (∀ e ∈ entryIfPresent key o, P e) ↔ ∀ j, o = some j → P (key, j) := by
  cases o <;> simp [entryIfPresent]

theorem Report.numbersSurvive {r : Report} (hfinite : ∀ x ∈ r.numbers, x.isFinite = true)
    (hread : ∀ x ∈ r.numbers, x.SurvivesJson) : NumbersSurvive r.toJson.tokens := by
  have hfilters : NumbersSurvive (Json.list (r.filters.map Filter.toJson)).tokens := by
    refine Json.numbersSurvive_list fun j hj => ?_
    obtain ⟨f, hf, rfl⟩ := List.mem_map.1 hj
    exact f.numbersSurvive (fun x hx => hfinite x (mem_numbers hf hx))
      fun x hx => hread x (mem_numbers hf hx)
  have haggregations :
      NumbersSurvive (Json.list (r.aggregations.map Aggregation.toJson)).tokens := by
    refine Json.numbersSurvive_list fun j hj => ?_
    obtain ⟨a, -, rfl⟩ := List.mem_map.1 hj
    exact Json.numbersSurvive_text _
  have hgroupBy : ∀ j, r.groupBy.map ofTexts = some j → NumbersSurvive j.tokens := by
    intro j hj
    obtain ⟨fields, -, rfl⟩ := Option.map_eq_some_iff.1 hj
    exact numbersSurvive_ofTexts fields
  have hsortBy : ∀ j, r.sortBy.map SortSpec.toJson = some j → NumbersSurvive j.tokens := by
    intro j hj
    obtain ⟨s, -, rfl⟩ := Option.map_eq_some_iff.1 hj
    exact s.numbersSurvive
  have hlimit : ∀ j, (r.limit.map fun n => Json.integer (n.val : Int)) = some j →
      NumbersSurvive j.tokens := by
    intro j hj
    obtain ⟨n, -, rfl⟩ := Option.map_eq_some_iff.1 hj
    have hle : greatestLimit ≤ Json.greatestSignificand := by decide
    exact Json.numbersSurvive_number (Json.Numeral.survives_natural (by omega))
  refine Json.numbersSurvive_object ?_
  simp only [List.forall_mem_append, List.forall_mem_cons, List.not_mem_nil, false_implies,
    implies_true, and_true, forall_mem_entryIfPresent]
  exact ⟨⟨⟨⟨⟨Json.numbersSurvive_text _, Json.numbersSurvive_text _, hfilters,
    numbersSurvive_ofTexts _⟩, hgroupBy⟩, hsortBy⟩, hlimit⟩, r.window.numbersSurvive,
    haggregations⟩

theorem SavedReport.numbersSurvive {s : SavedReport}
    (hreport : NumbersSurvive s.report.toJson.tokens) : NumbersSurvive s.toJson.tokens := by
  refine Json.numbersSurvive_object ?_
  simp only [List.forall_mem_cons, List.not_mem_nil, false_implies, implies_true, and_true]
  exact ⟨Json.numbersSurvive_text _, Json.numbersSurvive_text _, Json.numbersSurvive_text _,
    numbersSurvive_ofTexts _, Json.numbersSurvive_text _, hreport⟩

/-! ## Texts -/

/-- A report whose numbers are finite and survive is read from both of its texts, and so is every
saved report that holds it. -/
theorem report_roundTrip {r : Report} (hfinite : ∀ x ∈ r.numbers, x.isFinite = true)
    (hread : ∀ x ∈ r.numbers, x.SurvivesJson) :
    (Json.ofText? r.toJson.compact).bind Report.ofJson? = some r ∧
      (Json.ofText? r.toJson.pretty).bind Report.ofJson? = some r ∧
      ∀ s : SavedReport, s.report = r →
        (Json.ofText? s.toJson.compact).bind SavedReport.ofJson? = some s ∧
          (Json.ofText? s.toJson.pretty).bind SavedReport.ofJson? = some s := by
  have hnumbers := r.numbersSurvive hfinite hread
  refine ⟨?_, ?_, ?_⟩
  · rw [Json.ofText?_compact hnumbers, Option.bind_some, Report.ofJson?_toJson hfinite]
  · rw [Json.ofText?_pretty hnumbers, Option.bind_some, Report.ofJson?_toJson hfinite]
  · rintro s rfl
    have hsaved := s.numbersSurvive hnumbers
    have hvalue := SavedReport.ofJson?_toJson hfinite
    exact ⟨by rw [Json.ofText?_compact hsaved, Option.bind_some, hvalue],
      by rw [Json.ofText?_pretty hsaved, Option.bind_some, hvalue]⟩

/-- An amount with a fraction, a quoted name, an empty grouping, and bounds in a leap second before
the year 0 and in a year of five digits. -/
theorem report_roundTrip_leapSecond :
    let r : Report :=
      { reportType := .pnl
        name := "Pnl - \"A\"\n"
        filters := [.greaterThan "amount_ngn" (.ofDecimal false 25 (-1)), .equals "desk" ""]
        metrics := []
        groupBy := some []
        sortBy := none
        limit := some 10
        window :=
          ⟨some ⟨⟨-1, 12, 31, by decide, by decide, by decide⟩, 86399, 1500000000, by decide,
              by decide, by decide⟩,
            some ⟨⟨12000, 2, 29, by decide, by decide, by decide⟩, 0, 1, by decide, by decide,
              by decide⟩⟩
        aggregations := [.max] }
    (Json.ofText? r.toJson.compact).bind Report.ofJson? = some r ∧
      (Json.ofText? r.toJson.pretty).bind Report.ofJson? = some r := by
  intro r
  have hnumbers : ∀ x ∈ r.numbers, x = .ofDecimal false 25 (-1) :=
    fun x hx => List.mem_singleton.1 hx
  have hfinite : ∀ x ∈ r.numbers, x.isFinite = true := by
    intro x hx
    rw [hnumbers x hx]
    decide +kernel
  have hread : ∀ x ∈ r.numbers, x.SurvivesJson := by
    intro x hx
    rw [hnumbers x hx]
    exact ⟨.floating (.ofDecimal false 25 (-1)), by decide +kernel, rfl⟩
  obtain ⟨hcompact, hpretty, -⟩ := report_roundTrip hfinite hread
  exact ⟨hcompact, hpretty⟩

end ReportPlan
