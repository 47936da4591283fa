import Rho.Theorems.Constraints
import Rho.Theorems.PluginNetwork

/-!
# The two matchers of hosts

The engine and the grants match a host against the patterns of a permission with checks of their own. On a host that the engine
takes from a URL and a pattern that the manifest accepts, both decide the same rule, so a hop is allowed by both or by neither.
-/

namespace Rho

/-- The comparison with the suffix as both matchers make it: the byte in front of it is read only of a longer host. -/
def endsBelow (suffix host : List Char) : Option Bool :=
  if host.length ≤ suffix.length then some false
  else if !suffix.isSuffixOf host then some false
  else host[host.length - suffix.length - 1]?.map (· == '.')

/-- The engine's matcher with its index into the host; without a value where the index is out of range. -/
def PluginNetwork.indexedMatches (pattern host : List Char) : Option Bool :=
  if !validHost ((stripWildcard pattern).getD pattern) || !validHost host then some false
  else
    match stripWildcard pattern with
    | some suffix => endsBelow suffix host
    | none => some (pattern == host)

/-- The grants' matcher with its index into the host. -/
def indexedMatches (pattern host : List Char) : Option Bool :=
  if !validHostPattern pattern || !validHostPattern host || (wildcardSuffix host).isSome then some false
  else
    match wildcardSuffix pattern with
    | some suffix => endsBelow suffix host
    | none => some (pattern == host)

/-- Both matchers decide the rule, and both stay inside the host. -/
structure MatchersAgree (pattern host : List Char) : Prop where
  engine : PluginNetwork.hostMatches pattern host = true ↔ PatternCovers pattern host
  grant : hostMatches pattern host = true ↔ PatternCovers pattern host
  engineInRange : PluginNetwork.indexedMatches pattern host = some (PluginNetwork.hostMatches pattern host)
  grantInRange : indexedMatches pattern host = some (hostMatches pattern host)

namespace HostMatchAux

theorem stripWildcard_eq (pattern : List Char) : PluginNetwork.stripWildcard pattern = wildcardSuffix pattern := by
  obtain _ | ⟨first, _ | ⟨second, suffix⟩⟩ := pattern
  · rfl
  · rfl
  · by_cases hfirst : first = '*'
    · subst hfirst
      by_cases hsecond : second = '.'
      · subst hsecond
        rfl
      · simp [PluginNetwork.stripWildcard, wildcardSuffix, hsecond]
    · simp [PluginNetwork.stripWildcard, wildcardSuffix, hfirst]

variable {pattern host : List Char}

theorem wildcardSuffix_some {suffix : List Char} (h : wildcardSuffix pattern = some suffix) : pattern = '*' :: '.' :: suffix := by
  unfold wildcardSuffix at h
  split at h
  · rw [Option.some.inj h]
  · cases h

/-- What both matchers compare a longer host with. -/
theorem drop_eq_iff (suffix host : List Char) :
    (suffix.length < host.length ∧ host.drop (host.length - suffix.length - 1) = '.' :: suffix) ↔
      ∃ labels, host = labels ++ '.' :: suffix := by
  constructor
  · rintro ⟨-, hdrop⟩
    exact ⟨host.take (host.length - suffix.length - 1), by rw [← hdrop, List.take_append_drop]⟩
  · rintro ⟨labels, rfl⟩
    have hlength : (labels ++ '.' :: suffix).length - suffix.length - 1 = labels.length := by
      rw [List.length_append, List.length_cons]
      omega
    refine ⟨?_, ?_⟩
    · rw [List.length_append, List.length_cons]
      omega
    · rw [hlength, List.drop_left]

/-- The index is read only where the host has a character. -/
theorem endsBelow_eq (suffix host : List Char) : endsBelow suffix host =
      some (decide (suffix.length < host.length) && host.drop (host.length - suffix.length - 1) == '.' :: suffix) := by
  have hiff := drop_eq_iff suffix host
  unfold endsBelow
  split
  · next hshort => simp [Nat.not_lt.mpr hshort]
  next hlong =>
  rw [Nat.not_le] at hlong
  split
  · next hends =>
    have hnot : host.drop (host.length - suffix.length - 1) ≠ '.' :: suffix := by
      intro hdrop
      obtain ⟨labels, hhost⟩ := hiff.mp ⟨hlong, hdrop⟩
      have hsuffix : suffix.isSuffixOf host = true :=
        List.isSuffixOf_iff_suffix.mpr ⟨labels ++ ['.'], by rw [hhost, List.append_assoc]; rfl⟩
      rw [hsuffix] at hends
      cases hends
    simp [hnot]
  · next hends =>
    rw [Bool.not_eq_true', Bool.not_eq_false] at hends
    obtain ⟨front, hhost⟩ := List.isSuffixOf_iff_suffix.mp hends
    have hin : host.length - suffix.length - 1 < host.length := by omega
    have hlast : host.drop (host.length - suffix.length - 1) = host[host.length - suffix.length - 1] :: suffix := by
      rw [List.drop_eq_getElem_cons hin]
      congr 1
      have hfront : host.length - suffix.length - 1 + 1 = front.length := by
        have hlength := congrArg List.length hhost
        rw [List.length_append] at hlength
        omega
      rw [hfront, ← hhost, List.drop_left]
    rw [List.getElem?_eq_getElem hin, hlast, Option.map_some]
    simp [hlong]

theorem engine_in_range (pattern host : List Char) :
    PluginNetwork.indexedMatches pattern host = some (PluginNetwork.hostMatches pattern host) := by
  unfold PluginNetwork.indexedMatches PluginNetwork.hostMatches
  split
  · rfl
  · cases PluginNetwork.stripWildcard pattern with
    | none => rfl
    | some suffix => exact endsBelow_eq suffix host

theorem grant_in_range (pattern host : List Char) : indexedMatches pattern host = some (hostMatches pattern host) := by
  unfold indexedMatches hostMatches
  split
  · rfl
  · cases wildcardSuffix pattern with
    | none => rfl
    | some suffix => exact endsBelow_eq suffix host

/-! ## The validity tests -/

/-- The labels after a dot are labels of the whole. -/
theorem hostLabels_below (labels suffix : List Char) :
    hostLabels (labels ++ '.' :: suffix) = hostLabels labels ++ hostLabels suffix := by
  have hne : ∀ l, hostLabels l ≠ [] := by
    intro l
    cases l with
    | nil => simp [hostLabels]
    | cons c l =>
      rw [hostLabels]
      split
      · simp
      · split <;> simp
  induction labels with
  | nil => simp [hostLabels]
  | cons c labels ih =>
    rw [List.cons_append, hostLabels, hostLabels, ih]
    split
    · rfl
    · cases hlabels : hostLabels labels with
      | nil => exact absurd hlabels (hne labels)
      | cons label rest => rfl

/-- A domain that a pattern may name, and that the labels of a host make valid for the engine. -/
theorem validHost_of_pattern (hpattern : validHostPattern pattern = true)
    (hlength : ((wildcardSuffix pattern).getD pattern).length ≤ 253)
    (hlabels : ∀ label ∈ hostLabels ((wildcardSuffix pattern).getD pattern),
      (!label.isEmpty && decide (label.length ≤ 63) && label.head? != some '-' && label.getLast? != some '-') = true) :
    validHost ((wildcardSuffix pattern).getD pattern) = true := by
  unfold validHostPattern at hpattern
  simp only [Bool.and_eq_true] at hpattern
  obtain ⟨⟨⟨⟨⟨hempty, hdot⟩, hfirst⟩, hlast⟩, -⟩, hchars⟩ := hpattern
  simp only [validHost, Bool.and_eq_true]
  exact ⟨⟨⟨⟨⟨⟨hempty, decide_eq_true hlength⟩, hdot⟩, hfirst⟩, hlast⟩, hchars⟩, List.all_eq_true.mpr hlabels⟩

theorem validHost_parts (h : validHost host = true) : host.length ≤ 253 ∧ host.head? ≠ some '.' ∧ ∀ label ∈ hostLabels host,
      (!label.isEmpty && decide (label.length ≤ 63) && label.head? != some '-' && label.getLast? != some '-') = true := by
  simp only [validHost, Bool.and_eq_true, decide_eq_true_eq, bne_iff_ne] at h
  exact ⟨h.1.1.1.1.1.2, h.1.1.1.2, List.all_eq_true.mp h.2⟩

/-- The engine's hosts are hosts of the grants. -/
theorem grant_host (h : validHost host = true) : validHostPattern host = true ∧ wildcardSuffix host = none := by
  have hstar : '*' ∉ host := by
    intro hmem
    exact absurd (validHost_chars h '*' hmem) (by decide)
  have hnone : wildcardSuffix host = none := by
    cases hsuffix : wildcardSuffix host with
    | none => rfl
    | some suffix => exact absurd (wildcardSuffix_some hsuffix ▸ List.mem_cons_self) hstar
  have hcontains : host.contains '*' = false := by simpa using hstar
  simp only [validHost, Bool.and_eq_true] at h
  refine ⟨?_, hnone⟩
  simp only [validHostPattern, hnone, Option.getD_none, hcontains, Bool.and_eq_true, Bool.not_false]
  exact ⟨⟨⟨⟨⟨h.1.1.1.1.1.1, h.1.1.1.1.2⟩, h.1.1.1.2⟩, h.1.1.2⟩, trivial⟩, h.1.2⟩

/-- On the hosts of the engine and the patterns of the manifest both matchers decide the rule. -/
theorem matchers_agree (hpattern : validHostPattern pattern = true) (hhost : validHost host = true) :
    MatchersAgree pattern host := by
  obtain ⟨hlength, hfirst, hlabels⟩ := validHost_parts hhost
  obtain ⟨hgrant, hnone⟩ := grant_host hhost
  have hgrantIff : hostMatches pattern host = true ↔ PatternCovers pattern host := by
    unfold hostMatches
    rw [if_neg (by simp [hpattern, hgrant, hnone])]
    split
    · next suffix hsuffix =>
      rw [Bool.and_eq_true, decide_eq_true_iff, beq_iff_eq, drop_eq_iff]
      constructor
      · rintro ⟨labels, heq⟩
        refine .inr ⟨suffix, labels, wildcardSuffix_some hsuffix, ?_, heq⟩
        rintro rfl
        exact hfirst (by rw [heq]; rfl)
      · rintro (heq | ⟨suffix', labels, heq, -, hbelow⟩)
        · rw [← heq, hnone] at hsuffix
          cases hsuffix
        · rw [heq] at hsuffix
          cases hsuffix
          exact ⟨labels, hbelow⟩
    · next hsuffix =>
      rw [beq_iff_eq]
      constructor
      · intro heq
        exact .inl heq.symm
      · rintro (heq | ⟨suffix', labels, heq, -⟩)
        · exact heq.symm
        · rw [heq] at hsuffix
          cases hsuffix
  have hengineIff : PluginNetwork.hostMatches pattern host = true ↔ PatternCovers pattern host := by
    refine ⟨patternCovers_of_hostMatches, ?_⟩
    intro hcovers
    have hvalid : validHost ((wildcardSuffix pattern).getD pattern) = true := by
      rcases hcovers with rfl | ⟨suffix, labels, rfl, -, rfl⟩
      · rw [hnone]
        exact hhost
      · refine validHost_of_pattern hpattern ?_ ?_
        · rw [List.length_append, List.length_cons] at hlength
          change suffix.length ≤ 253
          omega
        · intro label hlabel
          refine hlabels label ?_
          rw [hostLabels_below]
          exact List.mem_append_right _ hlabel
    have hsame := hgrantIff.mpr hcovers
    unfold hostMatches at hsame
    rw [if_neg (by simp [hpattern, hgrant, hnone])] at hsame
    unfold PluginNetwork.hostMatches
    rw [stripWildcard_eq, if_neg (by simp [hvalid, hhost])]
    exact hsame
  exact ⟨hengineIff, hgrantIff, engine_in_range pattern host, grant_in_range pattern host⟩

theorem any_agrees {patterns : List String} (hpatterns : ∀ pattern ∈ patterns, validateHostPattern pattern = .ok ())
    (hhost : validHost host = true) : patterns.any (fun pattern => PluginNetwork.hostMatches pattern.toList host) =
      patterns.any (fun pattern => hostMatches pattern.toList host) := by
  rw [Bool.eq_iff_iff, List.any_eq_true, List.any_eq_true]
  refine exists_congr fun pattern => and_congr_right fun hmem => ?_
  have hagree := matchers_agree (ConstraintsAux.validHostPattern_of_manifest (hpatterns pattern hmem)) hhost
  exact hagree.engine.trans hagree.grant.symm

/-- A URL is refused for its form, or its host decides. -/
theorem validateUrl_cases (lib : NetworkLibrary) (url : String) (patterns : List String) :
    validateUrl lib url patterns = .error { code := .invalidUrl } ∨
      ∃ parsed host, lib.parse url = some parsed ∧ namedHost lib parsed = some host ∧ validHost host.toList = true ∧
        validateUrl lib url patterns =
          if patterns.any (fun pattern => PluginNetwork.hostMatches pattern.toList host.toList) then
            .ok (parsed, host, "https://" ++ host)
          else .error { code := .hostNotAllowed } := by
  unfold validateUrl
  split
  · exact .inl rfl
  cases hparse : lib.parse url with
  | none => exact .inl rfl
  | some parsed =>
    dsimp only
    split
    · exact .inl rfl
    cases hnamed : namedHost lib parsed with
    | none => exact .inl rfl
    | some host =>
      have hvalid := (namedHost_some hnamed).2.2
      refine .inr ⟨parsed, host, rfl, hnamed, hvalid, ?_⟩
      dsimp only
      rw [map_toLower_of_validHost hvalid, String.ofList_toList]

end HostMatchAux

open HostMatchAux

/-- For patterns that the manifest accepts and hosts that the engine takes from a URL, the matchers agree with the rule, and the
grants cover the host of exactly the URLs that the engine does not refuse for it. -/
theorem host_matchers_agree (lib : NetworkLibrary) (patterns : List String)
    (hpatterns : ∀ pattern ∈ patterns, validateHostPattern pattern = .ok ()) :
    (∀ parsed host, namedHost lib parsed = some host → ∀ pattern ∈ patterns, MatchersAgree pattern.toList host.toList) ∧
      (∀ url parsed host origin, validateUrl lib url patterns = .ok (parsed, host, origin) →
        patterns.any (fun pattern => hostMatches pattern.toList host.toList) = true) ∧
      ∀ url e, validateUrl lib url patterns = .error e → e.code = .hostNotAllowed →
        ∃ parsed host, lib.parse url = some parsed ∧ namedHost lib parsed = some host ∧
          patterns.any (fun pattern => hostMatches pattern.toList host.toList) = false := by
  refine ⟨?_, ?_, ?_⟩
  · intro parsed host hnamed pattern hmem
    exact matchers_agree (ConstraintsAux.validHostPattern_of_manifest (hpatterns pattern hmem)) (namedHost_some hnamed).2.2
  · intro url parsed host origin hurl
    rcases validateUrl_cases lib url patterns with hform | ⟨parsed', host', -, -, hvalid, hdecides⟩
    · rw [hform] at hurl
      cases hurl
    rw [hdecides] at hurl
    split at hurl
    · next hany =>
      cases hurl
      rwa [any_agrees hpatterns hvalid] at hany
    · cases hurl
  · intro url e hurl hcode
    rcases validateUrl_cases lib url patterns with hform | ⟨parsed, host, hparse, hnamed, hvalid, hdecides⟩
    · rw [hform] at hurl
      cases hurl
      cases hcode
    refine ⟨parsed, host, hparse, hnamed, ?_⟩
    rw [hdecides] at hurl
    split at hurl
    · cases hurl
    · next hany =>
      rw [← any_agrees hpatterns hvalid]
      exact Bool.not_eq_true _ ▸ hany

theorem host_matchers_agree_sample : SampleFetch.library.hostStr "https://api.example.org/x" = some "api.example.org" ∧
    MatchersAgree "*.example.org".toList "api.example.org".toList :=
  ⟨rfl, (host_matchers_agree SampleFetch.library ["*.example.org"] (List.forall_mem_singleton.mpr rfl)).1
    "https://api.example.org/x" "api.example.org" (by decide +kernel) "*.example.org" (List.mem_singleton.mpr rfl)⟩

end Rho
