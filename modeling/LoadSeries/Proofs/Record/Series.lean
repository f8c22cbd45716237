import LoadSeries.Proofs.Generator.Walk
import LoadSeries.Proofs.Record.Labels
import LoadSeries.Proofs.Text.Pieces

/-!
A series key as the name of a series. It is written if neither the metric nor a tag holds a
delimiter, and is then cut back into the metric and the tags with the user, so that a key belongs to
one metric, one set of tags and one user. Within a run, where the user determines the tags, a key
stands for a user.
-/
namespace LoadSeries
open Text

namespace SeriesKey

variable {metric name value : String} {record : Record} {character : Char} {key : List Char}
  {error : EncodingError} {tags : List (String × String)}

/-- A series key is refused for the first text with a delimiter. -/
def Refuses (metric : String) (record : Record) (error : EncodingError) : Prop :=
  ∃ name value character,
    FirstReserved isDelimiter (("metric", metric) :: record.tags.keyed) name value character ∧
      error = .reservedCharacter name value character

theorem encode_of_refuses (refuses : Refuses metric record error) :
    encode metric record = .error error := by
  obtain ⟨name, value, character, first, rfl⟩ := refuses
  exact encode_of_firstReserved first

theorem unreserved_or_refuses (metric : String) (record : Record) :
    Unreserved isDelimiter (("metric", metric) :: record.tags.keyed) ∨
      ∃ error, Refuses metric record error := by
  rcases unreserved_or_firstReserved isDelimiter (("metric", metric) :: record.tags.keyed) with
    unreserved | ⟨name, value, character, first⟩
  · exact .inl unreserved
  · exact .inr ⟨_, name, value, character, first, rfl⟩

theorem encode_eq_ok_iff : encode metric record = .ok key ↔
    Unreserved isDelimiter (("metric", metric) :: record.tags.keyed) ∧
      key = metric.toList ++ tagsText record.seriesTags := by
  apply eq_ok_iff_of_either encode_of_unreserved encode_of_refuses
  exact unreserved_or_refuses metric record

theorem encode_eq_error_iff :
    encode metric record = .error error ↔ Refuses metric record error := by
  apply eq_error_iff_of_either encode_of_unreserved encode_of_refuses
  exact unreserved_or_refuses metric record

/-- A tag as it stands between two delimiters of a key. -/
def part (tag : String × String) : List Char := tag.1.toList ++ valueDelimiter :: tag.2.toList

theorem append_tagsText (front : List Char) (tags : List (String × String)) :
    front ++ tagsText tags = [tagDelimiter].intercalate (front :: tags.map part) := by
  induction tags generalizing front with
  | nil => rw [tagsText, List.append_nil, List.map_nil, List.intercalate_singleton]
  | cons tag rest ih =>
    rw [List.map_cons, List.intercalate_cons_cons, ← ih]
    simp [tagsText, part]

theorem ne_of_isDelimiter {c d : Char} (plain : isDelimiter c = false)
    (delimiter : isDelimiter d = true) : d ≠ c := by
  rintro rfl
  rw [delimiter] at plain
  cases plain

/-- A tag whose name and value hold no delimiter. -/
def Plain (tag : String × String) : Prop :=
  ∀ c ∈ tag.1.toList ++ tag.2.toList, isDelimiter c = false

theorem Plain.not_mem {tag : String × String} (plain : Plain tag) {d : Char}
    (delimiter : isDelimiter d = true) : d ∉ tag.1.toList ∧ d ∉ tag.2.toList := by
  constructor
  · intro inside
    have free := plain d (List.mem_append_left _ inside)
    exact ne_of_isDelimiter free delimiter rfl
  · intro inside
    have free := plain d (List.mem_append_right _ inside)
    exact ne_of_isDelimiter free delimiter rfl

theorem splitOn_part {tag : String × String} (plain : Plain tag) :
    (part tag).splitOn '=' = [tag.1.toList, tag.2.toList] := by
  obtain ⟨name, value⟩ := plain.not_mem (d := '=') rfl
  have cut : (part tag).splitOn '=' = tag.1.toList :: tag.2.toList.splitOn '=' :=
    List.splitOn_append_cons_self_of_not_mem name tag.2.toList
  rw [cut, List.splitOn_eq_singleton value]

theorem count_part {tag : String × String} (plain : Plain tag) : (part tag).count '=' = 1 := by
  obtain ⟨name, value⟩ := plain.not_mem (d := '=') rfl
  have sum : (part tag).count '=' = tag.1.toList.count '=' + (tag.2.toList.count '=' + 1) := by
    rw [part, List.count_append]
    exact congrArg _ List.count_cons_self
  rw [sum, List.count_eq_zero.mpr name, List.count_eq_zero.mpr value]

theorem splitOn_key (metricFree : ∀ c ∈ metric.toList, isDelimiter c = false)
    (plain : ∀ tag ∈ tags, Plain tag) :
    (metric.toList ++ tagsText tags).splitOn ',' = metric.toList :: tags.map part := by
  rw [append_tagsText]
  apply List.splitOn_intercalate
  · intro piece member inside
    rcases List.mem_cons.mp member with rfl | member
    · exact ne_of_isDelimiter (metricFree _ inside) rfl rfl
    · obtain ⟨tag, present, rfl⟩ := List.mem_map.mp member
      obtain ⟨name, value⟩ := (plain tag present).not_mem (d := ',') rfl
      rcases List.mem_append.mp inside with front | back
      · exact name front
      · rcases List.mem_cons.mp back with mark | back
        · cases mark
        · exact value back
  · exact List.cons_ne_nil _ _

/-- The names of the tags of every key. -/
def tagNames : List String :=
  ["AREA", "BJLX", "DISTRICT", "LINE", "MPID", "PROVINCE", "SYSTEM", "ZCUSID"]

theorem map_fst_seriesTags (record : Record) : record.seriesTags.map (·.1) = tagNames := rfl

theorem pairwise_tagNames : tagNames.Pairwise (· < ·) := by
  decide

theorem plain_of_unreserved
    (unreserved : Unreserved isDelimiter (("metric", metric) :: record.tags.keyed)) :
    ∀ tag ∈ record.seriesTags, Plain tag := by
  have names : ∀ name ∈ tagNames, ∀ c ∈ name.toList, isDelimiter c = false := by
    simp [tagNames, isDelimiter, tagDelimiter, valueDelimiter]
  have values := unreserved.append (unreserved_user record.user)
  rw [← metric_seriesTags] at values
  intro tag member c inside
  rcases List.mem_append.mp inside with name | value
  · have listed : tag.1 ∈ tagNames := by
      rw [← map_fst_seriesTags record]
      exact List.mem_map_of_mem member
    exact names tag.1 listed c name
  · exact values tag (List.mem_cons_of_mem _ member) c value

/-- What a key is cut into: the metric, and eight parts that hold the tags and the user, each behind
its name, with the names in order. -/
structure Parts (key : List Char) (metric : String) (record : Record)
    (parts : List (List Char)) : Prop where
  cut : key.splitOn ',' = metric.toList :: parts
  eight : parts.length = 8
  single : ∀ part ∈ parts, part.count '=' = 1
  halves : parts.map (·.splitOn '=') =
    (record.tags.keyed ++ [("ZCUSID", intString record.user.toInt)]).map
      fun tag => [tag.1.toList, tag.2.toList]
  increasing : (parts.map fun part => String.ofList (part.takeWhile (· != '='))).Pairwise (· < ·)

theorem parts_of_encode (encoded : encode metric record = .ok key) :
    Parts key metric record (record.seriesTags.map part) := by
  obtain ⟨unreserved, rfl⟩ := encode_eq_ok_iff.mp encoded
  have plain := plain_of_unreserved unreserved
  have metricFree := unreserved ("metric", metric) List.mem_cons_self
  have names : (record.seriesTags.map part).map
      (fun part => String.ofList (part.takeWhile (· != '='))) = record.seriesTags.map (·.1) := by
    rw [List.map_map]
    refine List.map_congr_left fun tag member => ?_
    obtain ⟨name, -⟩ := (plain tag member).not_mem (d := '=') rfl
    have taken : (part tag).takeWhile (· != '=') = tag.1.toList := by
      rw [part, List.takeWhile_append_of_pos]
      · simp [valueDelimiter]
      · intro c inside
        simpa using ne_of_mem_of_not_mem inside name
    rw [Function.comp_apply, taken, String.ofList_toList]
  refine ⟨splitOn_key metricFree plain, rfl, ?_, ?_, ?_⟩
  · intro piece member
    obtain ⟨tag, present, rfl⟩ := List.mem_map.mp member
    exact count_part (plain tag present)
  · rw [List.map_map]
    exact List.map_congr_left fun tag member => splitOn_part (plain tag member)
  · rw [names, map_fst_seriesTags]
    exact pairwise_tagNames

/-- A key belongs to one metric, one set of tags and one user. -/
theorem Parts.unique {metric' : String} {record' : Record} {parts parts' : List (List Char)}
    (one : Parts key metric record parts) (two : Parts key metric' record' parts') :
    metric' = metric ∧ record'.tags = record.tags ∧ record'.user = record.user := by
  obtain ⟨sameMetric, rfl⟩ := List.cons.inj (two.cut.symm.trans one.cut)
  have halves := two.halves.symm.trans one.halves
  simp only [Tags.keyed, List.cons_append, List.nil_append, List.map_cons, List.map_nil,
    List.cons.injEq, String.toList_inj, and_true, true_and] at halves
  obtain ⟨area, alarm, district, line, mpid, province, system, user⟩ := halves
  have number : intText record'.user.toInt = intText record.user.toInt :=
    String.ofList_injective user
  have tags : record'.tags = record.tags := by
    cases left : record'.tags
    cases right : record.tags
    simp_all
  exact ⟨String.toList_inj.mp sameMetric, tags, Int32.toInt_inj.mp (intText_injective number)⟩

end SeriesKey

theorem Recipe.tags_of_recordAt {x : Recipe} {k : Nat} {record : Record}
    (found : x.recordAt k = .ok record) :
    record.tags = x.tables.resolve record.user x.userType := by
  obtain ⟨values, -, found⟩ := bind_eq_ok_iff.mp found
  obtain rfl := pure_eq_ok_iff.mp found
  rfl

namespace SeriesKey

/-- A series key is written if and only if neither the metric nor a tag holds a delimiter; otherwise
the first text that does is reported with the first one in it. A key that is written can be cut back
into its parts, and belongs to no other metric, tags or user; so two records of one run have the
same key if and only if they are of the same user. -/
theorem identifies_series (metric : String) (record : Record) :
    ((∃ key, encode metric record = .ok key) ↔
        Unreserved isDelimiter (("metric", metric) :: record.tags.keyed)) ∧
      (∀ error, encode metric record = .error error ↔ Refuses metric record error) ∧
      (∀ key, encode metric record = .ok key →
        (∃ parts, Parts key metric record parts) ∧
          ∀ metric' record', encode metric' record' = .ok key →
            metric' = metric ∧ record'.tags = record.tags ∧ record'.user = record.user) ∧
      ∀ (run : Recipe) (i j : Nat) (other : Record) (key key' : List Char),
        run.recordAt i = .ok record → run.recordAt j = .ok other →
          encode metric record = .ok key → encode metric other = .ok key' →
            (key = key' ↔ record.user = other.user) := by
  refine ⟨?_, fun error => encode_eq_error_iff, ?_, ?_⟩
  · constructor
    · rintro ⟨key, encoded⟩
      exact (encode_eq_ok_iff.mp encoded).1
    · intro unreserved
      exact ⟨_, encode_of_unreserved unreserved⟩
  · intro key encoded
    have parts := parts_of_encode encoded
    refine ⟨⟨_, parts⟩, fun metric' record' again => ?_⟩
    exact parts.unique (parts_of_encode again)
  · intro run i j other key key' here there encoded again
    constructor
    · rintro rfl
      obtain ⟨-, -, user⟩ := (parts_of_encode again).unique (parts_of_encode encoded)
      exact user
    · intro user
      -- The user determines the tags of a run, and with them the whole key.
      have tags : record.tags = other.tags := by
        rw [Recipe.tags_of_recordAt here, Recipe.tags_of_recordAt there, user]
      obtain ⟨-, rfl⟩ := encode_eq_ok_iff.mp encoded
      obtain ⟨-, rfl⟩ := encode_eq_ok_iff.mp again
      simp only [Record.seriesTags, tags, user]

theorem identifies_series_small : ∃ (record other : Record) (key key' : List Char),
    Recipe.small.recordAt 0 = .ok record ∧ Recipe.small.recordAt 2 = .ok other ∧
      encode "electric" record = .ok key ∧ encode "electric" other = .ok key' ∧ key ≠ key' := by
  obtain ⟨record, here⟩ := Recipe.exists_recordAt Recipe.small_drawable (k := 0) (by decide)
  obtain ⟨other, there⟩ := Recipe.exists_recordAt Recipe.small_drawable (k := 2) (by decide)
  have accepted : Recipe.small.cadence.Accepted := Cadence.accepted_of_check rfl
  have first := (Recipe.recordAt_eq_ok_iff accepted (by decide)).mp here
  have third := (Recipe.recordAt_eq_ok_iff accepted (by decide)).mp there
  have three : record.user = 3 := Int32.toInt_inj.mp first.user
  have four : other.user = 4 := Int32.toInt_inj.mp third.user
  obtain ⟨written, -, -, apart⟩ := identifies_series "electric" record
  obtain ⟨key, encoded⟩ := written.mpr <| by
    rw [first.tags, three]
    decide +kernel
  obtain ⟨key', again⟩ := (identifies_series "electric" other).1.mpr <| by
    rw [third.tags, four]
    decide +kernel
  refine ⟨record, other, key, key', here, there, encoded, again, fun same => ?_⟩
  have user := (apart _ 0 2 other key key' here there encoded again).mp same
  rw [three, four] at user
  cases user

end SeriesKey

end LoadSeries
