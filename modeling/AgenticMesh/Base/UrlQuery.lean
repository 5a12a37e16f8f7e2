import AgenticMesh.Base.PercentEncoding

/-!
# Queries of addresses

`urlencode` and `parse_qs`: fields that are separated by `&`, with a name and a value in percent
encoding and `+` for a blank.  A field without a value is not read.
-/

namespace AgenticMesh

/-- `quote_plus`. -/
def quotePlus (s : String) : String :=
  String.ofList ((quote [' '] s).toList.map fun c => if c = ' ' then '+' else c)

/-- `urlencode`. -/
def urlencode (query : List (String × String)) : String :=
  "&".intercalate (query.map fun field => quotePlus field.1 ++ "=" ++ quotePlus field.2)

section Parsing

-- the text of a percent encoding whose bytes are no UTF-8, where Python replaces characters
variable (replaced : String → String)

/-- `unquote_plus`. -/
def unquotePlus (cs : List Char) : String :=
  let s := String.ofList (cs.map fun c => if c = '+' then ' ' else c)
  (unquote s).getD (replaced s)

/-- A field of a query. -/
def queryField (field : List Char) : Option (String × String) :=
  let value := (field.dropWhile (· ≠ '=')).drop 1
  if value = [] then none
  else some (unquotePlus replaced (field.takeWhile (· ≠ '=')), unquotePlus replaced value)

/-- `parse_qsl`. -/
def parseQsl (query : String) : List (String × String) :=
  (query.toList.splitOn '&').filterMap (queryField replaced)

/-- `parse_qs(query).get(name, [])`. -/
def queryValues (query name : String) : List String :=
  (parseQsl replaced query).filterMap fun field => if field.1 = name then some field.2 else none

end Parsing

/-! ## Round trip -/

lemma plus_not_mem_quote (s : String) : '+' ∉ (quote [' '] s).toList := by
  intro h
  rcases mem_quote h with h | h | ⟨h, -⟩
  · exact absurd h (by decide)
  · exact absurd h (by decide)
  · exact absurd h (by decide)

/-- A quoted text has no separators. -/
lemma not_mem_quotePlus {c : Char} (hreserved : isUnreserved c = false) (hpercent : c ≠ '%')
    (hplus : c ≠ '+') (s : String) : c ∉ (quotePlus s).toList := by
  rw [quotePlus, String.toList_ofList]
  intro h
  obtain ⟨d, hd, hc⟩ := List.mem_map.1 h
  split at hc
  · exact hplus hc.symm
  · next hblank =>
    subst hc
    rcases mem_quote hd with h | h | ⟨h, -⟩
    · rw [hreserved] at h
      exact absurd h nofun
    · exact hpercent h
    · exact hblank (List.mem_singleton.1 h)

variable {replaced : String → String}

lemma unquotePlus_quotePlus (s : String) :
    unquotePlus replaced (quotePlus s).toList = s := by
  have hchars : ((quotePlus s).toList.map fun c => if c = '+' then ' ' else c) =
      (quote [' '] s).toList := by
    rw [quotePlus, String.toList_ofList, List.map_map]
    refine (List.map_congr_left fun c hc => ?_).trans (List.map_id _)
    have hplus : c ≠ '+' := fun h => plus_not_mem_quote s (h ▸ hc)
    rw [Function.comp_apply]
    by_cases hblank : c = ' '
    · rw [if_pos hblank, if_pos rfl, hblank]
      rfl
    · rw [if_neg hblank, if_neg hplus]
      rfl
  rw [unquotePlus, hchars, String.ofList_toList, unquote_quote (by decide)]
  rfl

lemma quotePlus_eq_nil {s : String} : (quotePlus s).toList = [] ↔ s = "" := by
  constructor
  · intro h
    rw [← @unquotePlus_quotePlus id s, h]
    decide
  · rintro rfl
    decide

/-- A field is read as it was written, unless its value is empty. -/
lemma queryField_urlencode {name value : String} (h : value ≠ "") :
    queryField replaced (quotePlus name ++ "=" ++ quotePlus value).toList = some (name, value) := by
  have hplain : ∀ c ∈ (quotePlus name).toList, decide (c ≠ '=') = true := fun c hc =>
    decide_eq_true fun heq =>
      not_mem_quotePlus (by decide) (by decide) (by decide) name (heq ▸ hc)
  have htext : (quotePlus name ++ "=" ++ quotePlus value).toList =
      (quotePlus name).toList ++ '=' :: (quotePlus value).toList := by simp
  have htake : ((quotePlus name).toList ++ '=' :: (quotePlus value).toList).takeWhile
      (· ≠ '=') = (quotePlus name).toList := by
    rw [List.takeWhile_append_of_pos hplain, List.takeWhile_cons_of_neg (by simp),
      List.append_nil]
  have hdrop : ((quotePlus name).toList ++ '=' :: (quotePlus value).toList).dropWhile
      (· ≠ '=') = '=' :: (quotePlus value).toList := by
    rw [List.dropWhile_append_of_pos hplain, List.dropWhile_cons_of_neg (by simp)]
  rw [htext, queryField, htake, hdrop, List.drop_one, List.tail_cons,
    if_neg fun hnil => h (quotePlus_eq_nil.1 hnil), unquotePlus_quotePlus, unquotePlus_quotePlus]

/-- A field of `urlencode`. -/
def fieldText (field : String × String) : List Char :=
  (quotePlus field.1 ++ "=" ++ quotePlus field.2).toList

lemma and_not_mem_fieldText (field : String × String) : '&' ∉ fieldText field := by
  intro h
  rw [fieldText, String.toList_append, String.toList_append, List.mem_append,
    List.mem_append] at h
  rcases h with (h | h) | h
  · exact not_mem_quotePlus (by decide) (by decide) (by decide) field.1 h
  · exact absurd h (by decide)
  · exact not_mem_quotePlus (by decide) (by decide) (by decide) field.2 h

lemma toList_urlencode (query : List (String × String)) :
    (urlencode query).toList = ['&'].intercalate (query.map fieldText) := by
  rw [urlencode, String.toList_intercalate, List.map_map]
  rfl

/-- **Round trip**, for a query without empty values. -/
theorem parseQsl_urlencode {query : List (String × String)} (h : ∀ field ∈ query, field.2 ≠ "") :
    parseQsl replaced (urlencode query) = query := by
  rw [parseQsl, toList_urlencode]
  by_cases hne : query = []
  · have hfield : queryField replaced [] = none := by simp [queryField]
    rw [hne, List.map_nil, List.intercalate_nil, List.splitOn_nil,
      List.filterMap_cons_none hfield, List.filterMap_nil]
  · have hand : ∀ xs ∈ query.map fieldText, '&' ∉ xs := by
      intro xs hxs
      obtain ⟨field, -, rfl⟩ := List.mem_map.1 hxs
      exact and_not_mem_fieldText field
    have hnil : query.map fieldText ≠ [] := fun h => hne (List.map_eq_nil_iff.1 h)
    have hread : ∀ field ∈ query, (queryField replaced ∘ fieldText) field = some field :=
      fun field hfield => by
        rw [Function.comp_apply, fieldText, queryField_urlencode (h field hfield)]
    rw [List.splitOn_intercalate '&' hand hnil, List.filterMap_map,
      List.filterMap_congr hread, List.filterMap_some]

end AgenticMesh
