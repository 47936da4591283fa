import Mathlib.Data.List.TakeWhile
import Rho.Lib.JsonParse
import Rho.Server.PlotPayload

/-!
# The plots of an execution

A text is accepted exactly when it is base64 with its padding or without, and what is made of it is the same text with its padding.
The plots that are kept of the events of a kernel are those that an event shows, each once and in the order in which they came.
-/

namespace Rho

open Json (bytes)

/-- The compact text is a core of base64, with the padding that it needs or with none. -/
structure IsBase64Text (compact core : List Char) : Prop where
  ne_nil : core ≠ []
  alphabet : core.all isBase64Byte = true
  length : core.length % 4 ≠ 1
  padded : compact = core ∨ compact = core ++ Base64.padding core.length

namespace PlotPayloadAux

variable {core compact : List Char}

theorem value_of_alphabet {c : Char} (h : isBase64Byte c = true) : (Base64.value c).isSome := by
  simp only [isBase64Byte, Bool.or_eq_true, decide_eq_true_eq, beq_iff_eq] at h
  unfold Base64.value
  rcases h with (((h | h) | h) | rfl) | rfl
  · rw [if_pos h]
    rfl
  · split
    · rfl
    · rfl
  · split
    · rfl
    split
    · rfl
    · rfl
  · rfl
  · rfl

theorem values (h : core.all isBase64Byte = true) : ∀ c ∈ core, (Base64.value c).isSome :=
  fun c hc => value_of_alphabet (List.all_eq_true.mp h c hc)

theorem pad_not_mem (h : core.all isBase64Byte = true) : '=' ∉ core :=
  fun hmem => Base64.ne_pad (values h '=' hmem) rfl

/-- A character of the alphabet is one byte. -/
theorem utf8Size_of_alphabet {c : Char} (h : isBase64Byte c = true) : c.utf8Size = 1 := by
  simp only [isBase64Byte, Bool.or_eq_true, decide_eq_true_eq, beq_iff_eq] at h
  rw [Char.utf8Size_eq_one_iff]
  rcases h with (((⟨-, h⟩ | ⟨-, h⟩) | ⟨-, h⟩) | rfl) | rfl
  · exact UInt32.le_trans h (by decide)
  · exact UInt32.le_trans h (by decide)
  · exact UInt32.le_trans h (by decide)
  · decide
  · decide

theorem bytes_core (h : core.all isBase64Byte = true) : bytes core = core.length := by
  induction core with
  | nil => rfl
  | cons c core ih =>
    rw [List.all_cons, Bool.and_eq_true] at h
    rw [Json.bytes_cons, utf8Size_of_alphabet h.1, ih h.2, List.length_cons, Nat.add_comm]

theorem bytes_filled (core : List Char) (p : Nat) : bytes (core ++ List.replicate p '=') = bytes core + p := by
  rw [Json.bytes_append, Json.bytes_replicate, show '='.utf8Size = 1 from rfl, Nat.mul_one]

/-- A text is what is left of it and the characters that were cut off. -/
theorem trimEndMatches_split (c : Char) (text : List Char) : ∃ p, text = trimEndMatches c text ++ List.replicate p c := by
  refine ⟨(text.reverse.takeWhile (· == c)).length, ?_⟩
  have hall : text.reverse.takeWhile (· == c) = List.replicate (text.reverse.takeWhile (· == c)).length c :=
    List.eq_replicate_length.mpr fun x hx => beq_iff_eq.mp (List.mem_takeWhile_imp (p := (· == c)) hx)
  have hsplit := congrArg List.reverse (List.takeWhile_append_dropWhile (p := (· == c)) (l := text.reverse))
  rw [List.reverse_append, List.reverse_reverse, hall, List.reverse_replicate] at hsplit
  exact hsplit.symm

/-- A text without the character is what is left when the character is cut off after it. -/
theorem trimEndMatches_filled {c : Char} (h : c ∉ core) (p : Nat) : trimEndMatches c (core ++ List.replicate p c) = core := by
  unfold trimEndMatches
  rw [List.reverse_append, List.reverse_replicate, List.dropWhile_append_of_pos (by simp)]
  have hkept : core.reverse.dropWhile (· == c) = core.reverse := by
    rw [List.dropWhile_eq_self_iff]
    intro hlength
    have hmem := List.mem_reverse.mp (List.getElem_mem hlength)
    rw [beq_iff_eq]
    exact fun hsame => h (hsame ▸ hmem)
  rw [hkept, List.reverse_reverse]

variable {value : String}

/-- What is accepted, in terms of what is cut off. -/
theorem accepted_iff (value out : String) : normalizeBase64Padding value = some out ↔
    ∃ core, IsBase64Text (compactText value) core ∧ out = String.ofList (core ++ Base64.padding core.length) := by
  obtain ⟨p, hsplit⟩ := trimEndMatches_split '=' (compactText value)
  unfold normalizeBase64Padding
  dsimp only
  constructor
  · intro h
    split at h
    · cases h
    next hgood =>
    cases h
    simp only [not_or, Bool.not_eq_false, not_and, not_not, not_lt] at hgood
    generalize trimEndMatches '=' (compactText value) = core at hsplit hgood
    obtain ⟨hne, -, htwo, hfour, halphabet, hone⟩ := hgood
    rw [hsplit, bytes_filled, Nat.add_sub_cancel_left] at htwo hfour
    rw [bytes_core halphabet] at hfour hone ⊢
    refine ⟨core, ⟨hne, halphabet, hone, ?_⟩, rfl⟩
    rcases Nat.eq_zero_or_pos p with rfl | hp
    · left
      rw [hsplit, List.replicate_zero, List.append_nil]
    · right
      have hfill : p = (4 - core.length % 4) % 4 := by
        have := hfour hp
        omega
      rw [hsplit, Base64.padding, ← hfill]
  · rintro ⟨core, hbase, rfl⟩
    have hnot := pad_not_mem hbase.alphabet
    have hcore : trimEndMatches '=' (compactText value) = core := by
      rcases hbase.padded with h | h
      · have hzero := trimEndMatches_filled hnot 0
        rw [List.replicate_zero, List.append_nil] at hzero
        rw [h, hzero]
      · rw [h]
        exact trimEndMatches_filled hnot _
    rw [hcore] at hsplit ⊢
    have hp : p = 0 ∨ p = (4 - core.length % 4) % 4 := by
      rcases hbase.padded with h | h
      · left
        have hlength := congrArg List.length (hsplit.symm.trans h)
        simpa using hlength
      · right
        have hlength := congrArg List.length (hsplit.symm.trans h)
        simpa [Base64.padding] using hlength
    have hone := hbase.length
    rw [hsplit, bytes_filled, Nat.add_sub_cancel_left, bytes_core hbase.alphabet, if_neg]
    simp only [not_or, hbase.ne_nil, hnot, hbase.alphabet, not_false_eq_true, true_and, Bool.true_eq_false, not_and]
    omega

/-- The filled text has no white space, and its core is the one it was filled from. -/
theorem base64_filled (hbase : IsBase64Text compact core) :
    IsBase64Text (compactText (String.ofList (core ++ Base64.padding core.length))) core := by
  refine ⟨hbase.ne_nil, hbase.alphabet, hbase.length, .inr ?_⟩
  unfold compactText
  rw [String.toList_ofList, List.filter_eq_self]
  intro c hc
  rw [Bool.not_eq_true']
  rcases List.mem_append.mp hc with hc | hc
  · have hvalue := values hbase.alphabet c hc
    rw [← Bool.not_eq_true]
    intro hwhite
    simp only [isAsciiWhitespace, Bool.or_eq_true, beq_iff_eq] at hwhite
    rcases hwhite with (((rfl | rfl) | rfl) | rfl) | rfl
    all_goals cases hvalue
  · rw [List.eq_of_mem_replicate hc]
    rfl

theorem four_dvd_filled (hbase : IsBase64Text compact core) : bytes (core ++ Base64.padding core.length) % 4 = 0 := by
  have hone := hbase.length
  rw [Base64.padding, bytes_filled, bytes_core hbase.alphabet]
  omega

/-- A core has bytes, whatever the bits are that no byte takes. -/
theorem decodes_forgiving (halphabet : ∀ c ∈ core, (Base64.value c).isSome) (hlength : core.length % 4 ≠ 1) :
    (Base64.decodeUnpadded Base64.lastForgiving core).isSome := by
  induction core using Base64.decodeUnpadded.induct with
  | case1 => rfl
  | case2 w x =>
    obtain ⟨m, hw⟩ := Option.isSome_iff_exists.mp (halphabet w (by simp))
    obtain ⟨n, hx⟩ := Option.isSome_iff_exists.mp (halphabet x (by simp))
    rw [Base64.decodeUnpadded, hw, hx]
    rfl
  | case3 w x y =>
    obtain ⟨m, hw⟩ := Option.isSome_iff_exists.mp (halphabet w (by simp))
    obtain ⟨n, hx⟩ := Option.isSome_iff_exists.mp (halphabet x (by simp))
    obtain ⟨k, hy⟩ := Option.isSome_iff_exists.mp (halphabet y (by simp))
    rw [Base64.decodeUnpadded, hw, hx, hy]
    rfl
  | case4 w x y z rest ih =>
    obtain ⟨m, hw⟩ := Option.isSome_iff_exists.mp (halphabet w (by simp))
    obtain ⟨n, hx⟩ := Option.isSome_iff_exists.mp (halphabet x (by simp))
    obtain ⟨k, hy⟩ := Option.isSome_iff_exists.mp (halphabet y (by simp))
    obtain ⟨l, hz⟩ := Option.isSome_iff_exists.mp (halphabet z (by simp))
    obtain ⟨decoded, hrest⟩ := Option.isSome_iff_exists.mp (ih (fun c hc => halphabet c (by simp [hc])) (by
      simp only [List.length_cons] at hlength
      omega))
    rw [Base64.decodeUnpadded, hw, hx, hy, hz, hrest]
    rfl
  | case5 core hnil htwo hthree hmore =>
    obtain _ | ⟨w, _ | ⟨x, _ | ⟨y, _ | ⟨z, rest⟩⟩⟩⟩ := core
    · exact absurd rfl hnil
    · exact absurd rfl hlength
    · exact absurd rfl (htwo w x)
    · exact absurd rfl (hthree w x y)
    · exact absurd rfl (hmore w x y z rest)

end PlotPayloadAux

open PlotPayloadAux

/-- What is accepted is exactly the base64 with its padding or without: the result is the core with its padding, which has a length
divisible by four, is accepted as it is and is read as the core is, however the bits are read that no byte takes. -/
theorem normalize_base64_padding_exact (value : String) :
    (∀ out, normalizeBase64Padding value = some out ↔
      ∃ core, IsBase64Text (compactText value) core ∧ out = String.ofList (core ++ Base64.padding core.length)) ∧
      ∀ core out, IsBase64Text (compactText value) core → out = String.ofList (core ++ Base64.padding core.length) →
        out.utf8ByteSize % 4 = 0 ∧ normalizeBase64Padding out = some out ∧
          (∀ last, Base64.decodePadded last out.toList = Base64.decodeUnpadded last core) ∧
          (Base64.decodeUnpadded Base64.lastForgiving core).isSome := by
  refine ⟨fun out => accepted_iff value out, ?_⟩
  rintro core out hbase rfl
  refine ⟨four_dvd_filled hbase, ?_, fun last => ?_, decodes_forgiving (values hbase.alphabet) hbase.length⟩
  · exact (accepted_iff _ _).mpr ⟨core, base64_filled hbase, rfl⟩
  · rw [String.toList_ofList]
    exact Base64.decodePadded_padding (values hbase.alphabet)

/-- A text without its padding and with a line break. -/
theorem normalize_base64_padding_wrapped :
    normalizeBase64Padding "YW\nI" = some "YWI=" ∧ ("YWI=".utf8ByteSize % 4 = 0 ∧ normalizeBase64Padding "YWI=" = some "YWI=" ∧
      (∀ last, Base64.decodePadded last "YWI=".toList = Base64.decodeUnpadded last ['Y', 'W', 'I']) ∧
      (Base64.decodeUnpadded Base64.lastForgiving ['Y', 'W', 'I']).isSome) := by
  have hbase : IsBase64Text (compactText "YW\nI") ['Y', 'W', 'I'] := ⟨by simp, by decide, by decide, .inl (by decide)⟩
  obtain ⟨hiff, hout⟩ := normalize_base64_padding_exact "YW\nI"
  exact ⟨(hiff _).mpr ⟨_, hbase, rfl⟩, hout _ _ hbase rfl⟩

/-! ## The plots of the events -/

/-- What is kept of a media type: its payload, of a PNG the base64 with its padding. -/
def KeptPayload (data : List (String × Json)) (mediaType : String) (payload : Json) : Prop :=
  ∃ raw, OrdMap.get data mediaType = some raw ∧ (mediaType ≠ "image/png" → payload = raw) ∧
    (mediaType = "image/png" → ∃ text core, raw = .str text ∧ IsBase64Text (compactText text) core ∧
      payload = .str (String.ofList (core ++ Base64.padding core.length)))

/-- An event shows a plot: it displays an object, and of the media types it is the first of which a payload is kept. -/
def Shows (e : CorrelatedKernelEvent) (plot : String × String) : Prop :=
  ∃ data before after payload, e.event = .displayData (.obj data) ∧ plotMediaTypes = before ++ plot.1 :: after ∧
    (∀ mediaType ∈ before, ∀ other, ¬ KeptPayload data mediaType other) ∧ KeptPayload data plot.1 payload ∧
    plot.2 = (Json.obj [(plot.1, payload)]).toText

namespace PlotPayloadAux

theorem plotPayload_eq_some_iff {data : List (String × Json)} {mediaType : String} {payload : Json} :
    plotPayload data mediaType = some payload ↔ KeptPayload data mediaType payload := by
  unfold plotPayload KeptPayload
  rw [Option.bind_eq_some_iff]
  refine exists_congr fun raw => and_congr_right fun _ => ?_
  by_cases hpng : mediaType = "image/png"
  · simp only [hpng, if_true, ne_eq, not_true_eq_false, false_implies, true_and, true_implies, Option.map_eq_some_iff,
      Option.bind_eq_some_iff, accepted_iff]
    constructor
    · rintro ⟨_, ⟨text, htext, core, hbase, rfl⟩, rfl⟩
      cases raw with
      | str text' =>
        cases htext
        exact ⟨_, core, rfl, hbase, rfl⟩
      | _ => cases htext
    · rintro ⟨text, core, rfl, hbase, rfl⟩
      exact ⟨_, ⟨text, rfl, core, hbase, rfl⟩, rfl⟩
  · simp only [hpng, if_false, ne_eq, not_false_eq_true, true_implies, false_implies, and_true, Option.some.injEq]
    exact eq_comm

/-- Only an event that displays something has data. -/
theorem data_eq_some_iff {e : CorrelatedKernelEvent} {data : List (String × Json)} :
    (e.toJson.get "data").bind Json.asObject = some data ↔ e.event = .displayData (.obj data) := by
  obtain ⟨parentId, event⟩ := e
  cases event with
  | displayData shown =>
    change shown.asObject = some data ↔ _
    cases shown with
    | obj fields => simp [Json.asObject]
    | _ => simp [Json.asObject]
  | _ =>
    constructor
    · intro h
      cases h
    · intro h
      cases h

theorem eventPlot_eq_some_iff {e : CorrelatedKernelEvent} {plot : String × String} : eventPlot e = some plot ↔ Shows e plot := by
  have hnone : ∀ (data : List (String × Json)) (mediaType : String) (f : Json → String × String),
      (plotPayload data mediaType).map f = none ↔ ∀ other, ¬ KeptPayload data mediaType other := by
    intro data mediaType f
    rw [Option.map_eq_none_iff, Option.eq_none_iff_forall_ne_some]
    exact forall_congr' fun other => not_congr plotPayload_eq_some_iff
  unfold eventPlot Shows
  rw [Option.bind_eq_some_iff]
  constructor
  · rintro ⟨data, hdata, hfound⟩
    obtain ⟨before, mediaType, after, hsplit, hplot, hbefore⟩ := List.findSome?_eq_some_iff.mp hfound
    obtain ⟨payload, hpayload, rfl⟩ := Option.map_eq_some_iff.mp hplot
    exact ⟨data, before, after, payload, data_eq_some_iff.mp hdata, hsplit, fun m hm => (hnone _ _ _).mp (hbefore m hm),
      plotPayload_eq_some_iff.mp hpayload, rfl⟩
  · rintro ⟨data, before, after, payload, hdata, hsplit, hbefore, hpayload, htext⟩
    refine ⟨data, data_eq_some_iff.mpr hdata, List.findSome?_eq_some_iff.mpr ⟨before, plot.1, after, hsplit, ?_, ?_⟩⟩
    · exact Option.map_eq_some_iff.mpr ⟨payload, plotPayload_eq_some_iff.mpr hpayload, Prod.ext rfl htext.symm⟩
    · exact fun m hm => (hnone _ _ _).mpr (hbefore m hm)

/-- The plots so far are those that were seen, each once. -/
structure ScanOk (s : PlotScan) : Prop where
  nodup : s.plots.Nodup
  seen : ∀ plot, plot ∈ s.seen ↔ plot ∈ s.plots

/-- What a scan adds: the plots of its events that were not there, each once. -/
def Adds (events : List CorrelatedKernelEvent) (s s' : PlotScan) : Prop :=
  ∃ later, s'.plots = s.plots ++ later ∧ ∀ plot, plot ∈ later ↔ plot ∉ s.plots ∧ ∃ e ∈ events, Shows e plot

theorem scanOk_start : ScanOk {} := ⟨List.nodup_nil, fun _ => Iff.rfl⟩

variable {s : PlotScan} {events : List CorrelatedKernelEvent}

theorem scan_visit (hs : ScanOk s) (e : CorrelatedKernelEvent) : ScanOk (s.visit e) ∧ Adds [e] s (s.visit e) := by
  have hshows : ∀ plot, (∃ e' ∈ [e], Shows e' plot) ↔ eventPlot e = some plot := by
    intro plot
    rw [eventPlot_eq_some_iff]
    simp
  unfold Adds PlotScan.visit
  simp only [hshows]
  cases eventPlot e with
  | none => exact ⟨hs, [], (List.append_nil _).symm, by simp⟩
  | some plot =>
    dsimp only
    by_cases hseen : plot ∈ s.seen
    · rw [if_pos (List.contains_iff_mem.mpr hseen)]
      refine ⟨hs, [], (List.append_nil _).symm, ?_⟩
      rintro other
      constructor
      · exact fun h => absurd h List.not_mem_nil
      · rintro ⟨hnew, heq⟩
        cases heq
        exact absurd ((hs.seen plot).mp hseen) hnew
    · rw [if_neg fun h => hseen (List.contains_iff_mem.mp h)]
      have hnew : plot ∉ s.plots := fun h => hseen ((hs.seen plot).mpr h)
      refine ⟨⟨?_, ?_⟩, [plot], rfl, ?_⟩
      · rw [List.nodup_append]
        refine ⟨hs.nodup, List.pairwise_singleton _ plot, ?_⟩
        rintro a ha b hb rfl
        exact hnew (List.mem_singleton.mp hb ▸ ha)
      · intro other
        rw [List.mem_cons, List.mem_append, List.mem_singleton, hs.seen, or_comm]
      · intro other
        rw [List.mem_singleton, Option.some.injEq]
        constructor
        · rintro rfl
          exact ⟨hnew, rfl⟩
        · exact fun h => h.2.symm

theorem scan_foldl (events : List CorrelatedKernelEvent) (hs : ScanOk s) :
    ScanOk (events.foldl PlotScan.visit s) ∧ Adds events s (events.foldl PlotScan.visit s) := by
  induction events generalizing s with
  | nil => exact ⟨hs, [], (List.append_nil _).symm, by simp⟩
  | cons e events ih =>
    obtain ⟨hvisited, first, hfirst, hshown⟩ := scan_visit hs e
    obtain ⟨hok, later, hlater, hrest⟩ := ih hvisited
    refine ⟨hok, first ++ later, by rw [List.foldl_cons, hlater, hfirst, List.append_assoc], ?_⟩
    intro plot
    have hfirstShown : plot ∈ first ↔ plot ∉ s.plots ∧ Shows e plot := by
      simpa using hshown plot
    rw [List.mem_append, hrest, hfirst, List.mem_append, hfirstShown, List.exists_mem_cons_iff]
    tauto

end PlotPayloadAux

/-- The plots that are kept are those that an event shows, each once; the first events keep theirs, in front of what later events
add; and what is kept of a PNG is read back as base64 that can be decoded. -/
theorem plots_extracted (events : List CorrelatedKernelEvent) :
    (extractPlotPayloads events).Nodup ∧
      (∀ plot, plot ∈ extractPlotPayloads events ↔ ∃ e ∈ events, Shows e plot) ∧
      (∀ first rest, events = first ++ rest → ∃ later, extractPlotPayloads events = extractPlotPayloads first ++ later ∧
        ∀ plot ∈ later, ∀ e ∈ first, ¬ Shows e plot) ∧
      ∀ payload, ("image/png", payload) ∈ extractPlotPayloads events → ∃ text bytes,
        Json.fromText payload = some (.obj [("image/png", .str text)]) ∧
          Base64.decodePadded Base64.lastForgiving text.toList = some bytes := by
  obtain ⟨hok, later, hplots, hshown⟩ := scan_foldl events scanOk_start
  have hmem : ∀ plot, plot ∈ extractPlotPayloads events ↔ ∃ e ∈ events, Shows e plot := by
    intro plot
    have hall : extractPlotPayloads events = later := hplots
    rw [hall, hshown]
    exact and_iff_right List.not_mem_nil
  refine ⟨hok.nodup, hmem, ?_, ?_⟩
  · rintro first rest rfl
    obtain ⟨hfirst, before, hbefore, hshownBefore⟩ := scan_foldl first scanOk_start
    obtain ⟨-, added, hadded, hshownAdded⟩ := scan_foldl rest hfirst
    refine ⟨added, ?_, ?_⟩
    · unfold extractPlotPayloads
      rw [List.foldl_append, hadded]
    · intro plot hplot e he hshows
      refine ((hshownAdded plot).mp hplot).1 ?_
      rw [hbefore]
      exact List.mem_append_right _ ((hshownBefore plot).mpr ⟨List.not_mem_nil, e, he, hshows⟩)
  · intro payload hpayload
    obtain ⟨e, -, data, before, after, kept, -, -, -, ⟨raw, -, -, hpng⟩, htext⟩ := (hmem _).mp hpayload
    obtain ⟨text, core, -, hbase, rfl⟩ := hpng rfl
    obtain ⟨bytes, hbytes⟩ := Option.isSome_iff_exists.mp (decodes_forgiving (values hbase.alphabet) hbase.length)
    have hread : Json.fromText (Json.obj [("image/png", .str (String.ofList (core ++ Base64.padding core.length)))]).toText =
        some (.obj [("image/png", .str (String.ofList (core ++ Base64.padding core.length)))]) :=
      Json.fromText_toText ⟨trivial, trivial⟩ (Nat.succ_le_succ (Nat.zero_le _))
    refine ⟨_, bytes, htext ▸ hread, ?_⟩
    rw [String.toList_ofList, Base64.decodePadded_padding (values hbase.alphabet), hbytes]

end Rho
