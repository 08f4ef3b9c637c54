import ConfigClient.Client
import Mathlib.Data.List.DropRight
import Mathlib.Tactic.SplitIfs

/-!
# The scheme of a longer URL

The scheme of a URL ends with its first colon, so it is not changed by what is put behind the URL. A
slash in between sees to it that no surrogate pair forms across the joint and that the blanks at the
end of the first part do not hide what follows.

* `toChars_append_slash`: the characters of two texts with a slash between them.
* `splitScheme_eq_some_iff`: where the scheme of a text ends.
* `scheme?_append_slash`: the scheme of a longer URL.
* `Client.scheme?_url`: what a client requests has the scheme of the client's own URL.
-/

namespace ConfigClient

namespace Text

/-- A unit that is not the second half of a pair begins a character of its own. -/
theorem toChars_append_of_not_isLow {u : UInt16} (hu : isLow u = false) (t rest : Text) :
    toChars (t ++ u :: rest) = toChars t ++ toChars (u :: rest) := by
  induction t using toChars.induct with
  | case1 => rfl
  -- The last unit of `t` may open a pair, which only a second half could close.
  | case2 v => simp [toChars, hu]
  | case3 v w t hpair ih =>
    rw [List.cons_append, List.cons_append, toChars, toChars, if_pos hpair, if_pos hpair, ih]
    rfl
  | case4 v w t hpair ih =>
    rw [List.cons_append, List.cons_append, toChars, toChars, if_neg hpair, if_neg hpair,
      ← List.cons_append, ih]
    rfl

theorem toChars_slash (rest : Text) : toChars (unit '/' :: rest) = '/' :: toChars rest := by
  cases rest with
  | nil => rfl
  | cons v rest =>
    have hpair : ¬(isHigh (unit '/') && isLow v) = true := by
      rw [show isHigh (unit '/') = false from rfl]
      simp
    rw [toChars, if_neg hpair]
    rfl

theorem toChars_append_slash (t rest : Text) :
    toChars (t ++ unit '/' :: rest) = toChars t ++ '/' :: toChars rest := by
  rw [toChars_append_of_not_isLow rfl, toChars_slash]

end Text

namespace Url

/-! ## Cleaning -/

/-- What is dropped from the end stops at an element that stays. -/
theorem rdropWhile_append_cons {α : Type} {p : α → Bool} {c : α} (hc : p c = false)
    (xs ys : List α) : (xs ++ c :: ys).rdropWhile p = xs ++ c :: ys.rdropWhile p := by
  have hkept : (c :: xs.reverse).dropWhile p = c :: xs.reverse :=
    List.dropWhile_cons_of_neg (by simp [hc])
  unfold List.rdropWhile
  rw [List.reverse_append, List.reverse_cons, List.append_assoc, List.singleton_append,
    List.dropWhile_append]
  split_ifs with hempty
  · rw [List.isEmpty_iff.1 hempty, hkept]
    simp
  · simp

theorem clean_eq (t : Text) :
    clean t = ((t.toChars.dropWhile isTrimmed).rdropWhile isTrimmed).filter (!isDropped ·) := rfl

/-- A text of which something counts still counts in the same way before a slash. -/
theorem clean_append_slash {t : Text} (ht : clean t ≠ []) (rest : Text) :
    ∃ cs, clean (t ++ Text.unit '/' :: rest) = clean t ++ cs := by
  rw [clean_eq] at ht
  rw [clean_eq, clean_eq, Text.toChars_append_slash, List.dropWhile_append]
  generalize t.toChars.dropWhile isTrimmed = inner at *
  have hinner : ¬inner.isEmpty = true := by
    intro h
    rw [List.isEmpty_iff.1 h] at ht
    exact ht rfl
  -- What was trimmed from the end of `t` stands in front of the slash now, so it stays.
  obtain ⟨blanks, hblanks⟩ := List.rdropWhile_prefix isTrimmed (l := inner)
  rw [if_neg hinner, rdropWhile_append_cons (by decide)]
  refine ⟨(blanks ++ '/' :: (Text.toChars rest).rdropWhile isTrimmed).filter (!isDropped ·), ?_⟩
  rw [← List.filter_append, ← List.append_assoc, hblanks]

/-! ## Schemes -/

/-- A scheme is a letter and further characters of schemes before a colon, in small letters. -/
theorem splitScheme_eq_some_iff (cs scheme rest : List Char) :
    splitScheme cs = some (scheme, rest) ↔
      ∃ c name, cs = (c :: name) ++ ':' :: rest ∧ (∀ x ∈ c :: name, isSchemeChar x = true) ∧
        c.isAlpha = true ∧ scheme = (c :: name).map Char.toLower := by
  unfold splitScheme
  constructor
  · intro h
    simp only at h
    split at h
    · rename_i c name rest' hname hrest
      split_ifs at h with halpha
      cases h
      refine ⟨c, name, ?_, ?_, halpha, by rw [hname]⟩
      · rw [← hname, ← hrest]
        exact (List.prefix_iff_eq_append.1 (List.takeWhile_prefix isSchemeChar)).symm
      · intro x hx
        rw [← hname] at hx
        exact List.mem_takeWhile_imp hx
    · cases h
  · rintro ⟨c, name, rfl, hname, halpha, rfl⟩
    have htake : ((c :: name) ++ ':' :: rest).takeWhile isSchemeChar = c :: name := by
      rw [List.takeWhile_append_of_pos hname, List.takeWhile_cons_of_neg (by decide),
        List.append_nil]
    simp only [htake, List.drop_left, if_pos halpha]

theorem splitScheme_append {cs scheme rest : List Char} (h : splitScheme cs = some (scheme, rest))
    (more : List Char) : splitScheme (cs ++ more) = some (scheme, rest ++ more) := by
  obtain ⟨c, name, rfl, hname, halpha, hscheme⟩ := (splitScheme_eq_some_iff _ _ _).1 h
  refine (splitScheme_eq_some_iff _ _ _).2 ⟨c, name, ?_, hname, halpha, hscheme⟩
  rw [List.append_assoc]
  rfl

theorem splitScheme_of_scheme? {t : Text} {scheme : List Char} (h : scheme? t = some scheme) :
    ∃ rest, splitScheme (clean t) = some (scheme, rest) := by
  unfold scheme? at h
  split at h
  · cases h
  · rename_i scheme' rest hsplit
    split_ifs at h
    cases h
    exact ⟨rest, hsplit⟩

/-- What is put behind a URL and a slash does not change the scheme. -/
theorem scheme?_append_slash {t rest : Text} {scheme scheme' : List Char}
    (h : scheme? t = some scheme) (h' : scheme? (t ++ Text.unit '/' :: rest) = some scheme') :
    scheme' = scheme := by
  obtain ⟨after, hsplit⟩ := splitScheme_of_scheme? h
  obtain ⟨after', hsplit'⟩ := splitScheme_of_scheme? h'
  have hne : clean t ≠ [] := by
    intro hnil
    rw [hnil] at hsplit
    cases hsplit
  obtain ⟨cs, hcs⟩ := clean_append_slash hne rest
  rw [hcs, splitScheme_append hsplit] at hsplit'
  cases hsplit'
  rfl

end Url

namespace Client

/-- The URL of a path is the client's own URL with a slash and more behind it. -/
theorem exists_url_eq (c : Client) (path : Text) :
    ∃ rest, c.url path = c.base ++ Text.unit '/' :: rest := by
  have hpath : ∃ rest, (if path.startsWith "/" then path else Text.unit '/' :: path) =
      Text.unit '/' :: rest := by
    split_ifs with hstart
    · obtain ⟨rest, rfl⟩ := List.isPrefixOf_iff_prefix.1 hstart
      exact ⟨rest, rfl⟩
    · exact ⟨path, rfl⟩
  obtain ⟨rest, hrest⟩ := hpath
  unfold url
  rw [hrest]
  split_ifs
  · exact ⟨rest, by rw [List.append_nil]⟩
  · exact ⟨c.apiVersion ++ Text.unit '/' :: rest, by rw [List.append_assoc, List.cons_append]⟩

/-- What a client requests has the scheme of the client's own URL, if it is a URL at all. -/
theorem scheme?_url {c : Client} {path : Text} {scheme scheme' : List Char}
    (h : Url.scheme? c.base = some scheme) (h' : Url.scheme? (c.url path) = some scheme') :
    scheme' = scheme := by
  obtain ⟨rest, hrest⟩ := c.exists_url_eq path
  rw [hrest] at h'
  exact Url.scheme?_append_slash h h'

end Client

end ConfigClient
