import Twelve.Http.Uri

/-! Laws of the parts of a URI text under concatenation. A text without query
and fragment marks is all path, so validity of a join is validity of its sides. -/

set_option autoImplicit false

namespace Twelve

def Plain (text : Str) : Prop := ∀ char ∈ text, char ≠ '?' ∧ char ≠ '#'

theorem plain_iff_containsAny {text : Str} :
    Plain text ↔ Str.containsAny text ['?', '#'] = false := by
  simp [Plain, Str.containsAny_eq_false_iff]

theorem plain_append {left right : Str} : Plain (left ++ right) ↔ Plain left ∧ Plain right := by
  simp only [Plain, List.mem_append]
  constructor
  · intro both
    exact ⟨fun char member => both char (.inl member), fun char member => both char (.inr member)⟩
  · intro both char either
    obtain ⟨first, second⟩ := both
    rcases either with member | member
    · exact first char member
    · exact second char member

theorem Plain.of_subset {left right : Str} (plain : Plain right) (subset : left ⊆ right) :
    Plain left :=
  fun char member => plain char (subset member)

theorem pathPart_append {left : Str} (plain : Plain left) (right : Str) :
    pathPart (left ++ right) = left ++ pathPart right := by
  have kept : ∀ char ∈ left, (char != '?' && char != '#') = true := by
    intro char member
    simpa using plain char member
  exact List.takeWhile_append_of_pos kept

theorem pathPart_eq_self {text : Str} (plain : Plain text) : pathPart text = text := by
  simpa [pathPart] using pathPart_append plain []

theorem queryPart_append {left : Str} (plain : Plain left) (right : Str) :
    queryPart (left ++ right) = queryPart right := by
  have kept : ∀ char ∈ left, (char != '?' && char != '#') = true := by
    intro char member
    simpa using plain char member
  rw [queryPart, List.dropWhile_append_of_pos kept]
  rfl

theorem queryPart_eq_nil {text : Str} (plain : Plain text) : queryPart text = [] := by
  have split := queryPart_append plain []
  rw [List.append_nil] at split
  rw [split]
  rfl

theorem UriGrammar.pathAndQuery_append_iff (grammar : UriGrammar) {left : Str}
    (plain : Plain left) (right : Str) :
    grammar.PathAndQuery (left ++ right) ↔
      (∀ char ∈ left, grammar.pathChar char = true) ∧ grammar.PathAndQuery right := by
  rw [UriGrammar.PathAndQuery, pathPart_append plain, queryPart_append plain,
    UriGrammar.PathAndQuery]
  constructor
  · intro valid
    obtain ⟨path, query⟩ := valid
    exact ⟨fun char member => path char (List.mem_append_left _ member),
      fun char member => path char (List.mem_append_right _ member), query⟩
  · intro valid
    obtain ⟨first, path, query⟩ := valid
    refine ⟨?_, query⟩
    intro char member
    rcases List.mem_append.mp member with member | member
    · exact first char member
    · exact path char member

theorem UriGrammar.pathAndQuery_plain_iff (grammar : UriGrammar) {text : Str}
    (plain : Plain text) :
    grammar.PathAndQuery text ↔ ∀ char ∈ text, grammar.pathChar char = true := by
  rw [UriGrammar.PathAndQuery, pathPart_eq_self plain, queryPart_eq_nil plain]
  simp

theorem withoutFragment_eq_self {text : Str} (noFragment : '#' ∉ text) :
    withoutFragment text = text := by
  rw [withoutFragment, List.takeWhile_eq_self_iff]
  intro char member
  have different : char ≠ '#' := fun same => noFragment (same ▸ member)
  simpa using different

theorem Plain.not_mem_fragment {text : Str} (plain : Plain text) : '#' ∉ text :=
  fun member => (plain '#' member).2 rfl

theorem authorityPart_append_afterAuthority (rest : Str) :
    authorityPart rest ++ afterAuthority rest = rest :=
  List.takeWhile_append_dropWhile

theorem not_mem_authorityPart {rest : Str} {char : Char} (ends : endsAuthority char = true) :
    char ∉ authorityPart rest := by
  intro member
  have kept := List.mem_takeWhile_imp member
  simp [ends] at kept

theorem plain_of_whole_authority {text : Str} (whole : authorityPart text = text) :
    Plain text := by
  intro char member
  constructor
  · intro same
    subst same
    exact not_mem_authorityPart rfl (whole.symm ▸ member)
  · intro same
    subst same
    exact not_mem_authorityPart rfl (whole.symm ▸ member)

theorem afterAuthority_head {rest : Str} {head : Char} {tail : Str}
    (following : afterAuthority rest = head :: tail) : endsAuthority head = true := by
  have first := List.head?_dropWhile_not (!endsAuthority ·) rest
  rw [← afterAuthority, following] at first
  simpa using first

theorem afterAuthority_rooted {rest : Str} (plain : Plain rest) :
    afterAuthority rest = [] ∨ (afterAuthority rest).head? = some '/' := by
  cases following : afterAuthority rest with
  | nil => exact .inl rfl
  | cons head tail =>
      refine .inr ?_
      have member : head ∈ rest := by
        rw [← authorityPart_append_afterAuthority rest, following]
        simp
      have ends := afterAuthority_head following
      simp only [endsAuthority, Bool.or_eq_true, beq_iff_eq] at ends
      rcases ends with (slash | query) | fragment
      · simp [slash]
      · exact absurd query (plain head member).1
      · exact absurd fragment (plain head member).2

theorem authorityPart_append {authority path : Str} (whole : authorityPart authority = authority)
    (rooted : path = [] ∨ path.head? = some '/') :
    authorityPart (authority ++ path) = authority := by
  have kept := List.takeWhile_eq_self_iff.mp whole
  rw [authorityPart, List.takeWhile_append_of_pos kept]
  cases path with
  | nil => simp
  | cons head tail =>
      rcases rooted with empty | slash
      · cases empty
      · cases slash
        simp [endsAuthority]

theorem afterAuthority_append {authority path : Str} (whole : authorityPart authority = authority)
    (rooted : path = [] ∨ path.head? = some '/') : afterAuthority (authority ++ path) = path := by
  have split := authorityPart_append_afterAuthority (authority ++ path)
  rw [authorityPart_append whole rooted] at split
  exact List.append_cancel_left split

theorem toAsciiLowercase_of_known {scheme : Scheme}
    (known : scheme = Scheme.http ∨ scheme = Scheme.https) :
    Str.toAsciiLowercase scheme.asStr = scheme.asStr := by
  rcases known with rfl | rfl <;> decide

/-- A character that lower case leaves alone and that neither scheme has is not spelled. -/
theorem not_mem_of_spellsHttp {spelled : Str} (known : SpellsHttp spelled) {char : Char}
    (unchanged : char.toLower = char) (absent : char ∉ Scheme.https.asStr) : char ∉ spelled := by
  intro member
  have lowered : char ∈ Str.toAsciiLowercase spelled := List.mem_map.mpr ⟨char, member, unchanged⟩
  rcases known with http | https
  · rw [http] at lowered
    have subset : Scheme.http.asStr ⊆ Scheme.https.asStr := by decide
    exact absent (subset lowered)
  · rw [https] at lowered
    exact absent lowered

theorem plain_of_spellsHttp {spelled : Str} (known : SpellsHttp spelled) : Plain spelled := by
  intro char member
  constructor
  · intro same
    subst same
    exact not_mem_of_spellsHttp known (by decide) (by decide) member
  · intro same
    subst same
    exact not_mem_of_spellsHttp known (by decide) (by decide) member

theorem spellsHttp_iff {spelled : Str} {scheme : Scheme}
    (lowered : Str.toAsciiLowercase spelled = scheme.asStr) :
    SpellsHttp spelled ↔ scheme = Scheme.http ∨ scheme = Scheme.https := by
  obtain ⟨asStr⟩ := scheme
  rw [SpellsHttp, lowered]
  have named : ∀ other : Scheme, asStr = other.asStr ↔ (⟨asStr⟩ : Scheme) = other := by
    intro other
    exact ⟨congrArg Scheme.mk, congrArg Scheme.asStr⟩
  exact or_congr (named _) (named _)

theorem scheme_split_unique {first second left right : Str} (firstPlain : ':' ∉ first)
    (secondPlain : ':' ∉ second)
    (same : first ++ "://".toList ++ left = second ++ "://".toList ++ right) :
    first = second ∧ left = right := by
  have before : ∀ {name rest : Str}, ':' ∉ name →
      (name ++ "://".toList ++ rest).takeWhile (· != ':') = name := by
    intro name rest absent
    rw [List.append_assoc, List.takeWhile_append_of_pos]
    · simp
    · intro char member
      have different : char ≠ ':' := fun colon => absent (colon ▸ member)
      simpa using different
  have names : first = second := by rw [← before firstPlain, same, before secondPlain]
  subst names
  exact ⟨rfl, List.append_cancel_left same⟩

end Twelve
