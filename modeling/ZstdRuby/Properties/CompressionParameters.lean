import ZstdRuby.Libzstd.CompressionParameters
import ZstdRuby.Libzstd.DecompressContinue

/-! # Resolved parameters are within bounds

Every step of `ZSTD_adjustCParams_internal` keeps the parameters within what
`ZSTD_checkCParams` accepts, except that the window may become smaller than a
frame header can express; a last step raises it again.
-/

namespace ZstdRuby.Libzstd

/-! ## The check, and what the steps before the last keep -/

/-- Parameters within their bounds, except that the window may be as small as a
table. -/
structure CompressionParameters.NearlyValid (cPar : CompressionParameters) : Prop where
  windowLog : 6 ≤ cPar.windowLog ∧ cPar.windowLog ≤ windowLogMax
  chainLog : 6 ≤ cPar.chainLog ∧ cPar.chainLog ≤ 30
  hashLog : 6 ≤ cPar.hashLog ∧ cPar.hashLog ≤ 30
  searchLog : 1 ≤ cPar.searchLog ∧ cPar.searchLog ≤ windowLogMax - 1
  minMatch : 3 ≤ cPar.minMatch ∧ cPar.minMatch ≤ 7
  targetLength : cPar.targetLength ≤ blockSizeMax

theorem cParamWithinBounds_iff (cParam : CParameter) (value : Nat) :
    cParamWithinBounds cParam value = true ↔
      (cParamGetBounds cParam).1 ≤ value ∧ value ≤ (cParamGetBounds cParam).2 :=
  decide_eq_true_iff

theorem checkCParams_ok_iff (cParams : CompressionParameters) :
    checkCParams cParams = .ok () ↔
      windowLogAbsoluteMin ≤ cParams.windowLog ∧ cParams.NearlyValid := by
  have strategy : cParamWithinBounds .strategy (cParams.value .strategy) = true := by
    simp only [CompressionParameters.value]
    cases cParams.strategy <;> rfl
  have bounds : (CParameter.all.all fun cParam =>
      cParamWithinBounds cParam (cParams.value cParam)) = true ↔
        windowLogAbsoluteMin ≤ cParams.windowLog ∧ cParams.NearlyValid := by
    simp only [CParameter.all, List.all_cons, List.all_nil, strategy, Bool.and_true,
      Bool.and_eq_true, cParamWithinBounds_iff]
    simp only [cParamGetBounds, CompressionParameters.value]
    constructor
    · rintro ⟨window, chain, hash, search, minMatch, target⟩
      have lower := window.1
      simp only [windowLogAbsoluteMin] at lower
      exact ⟨window.1, ⟨by omega, window.2⟩, chain, hash, search, minMatch, target.2⟩
    · rintro ⟨window, nearly⟩
      exact ⟨⟨window, nearly.windowLog.2⟩, nearly.chainLog, nearly.hashLog, nearly.searchLog,
        nearly.minMatch, Nat.zero_le _, nearly.targetLength⟩
  rw [← bounds, checkCParams]
  split
  · rename_i accepted
    simp [accepted]
  · rename_i refused
    simp [refused]

theorem le_two_pow_highbit32 {size : Nat} (positive : 0 < size) :
    size ≤ 2 ^ (highbit32 (size - 1) + 1) := by
  have below : size - 1 < 2 ^ (highbit32 (size - 1) + 1) := Nat.lt_log2_self
  omega

theorem le_highbit32 {size bits : Nat} (large : 2 ^ bits ≤ size) : bits ≤ highbit32 size := by
  have positive : 0 < 2 ^ bits := Nat.two_pow_pos bits
  exact (Nat.le_log2 (by omega)).mpr large

theorem srcLog_bounds (tSize : Nat) : 6 ≤ srcLog tSize ∧ tSize ≤ 2 ^ srcLog tSize := by
  rw [srcLog]
  split
  · exact ⟨le_refl 6, by omega⟩
  · have log : 5 ≤ highbit32 (tSize - 1) := le_highbit32 (by omega)
    exact ⟨by omega, le_two_pow_highbit32 (by omega)⟩

/-! ## The steps -/

section

variable {cPar : CompressionParameters} {srcSize dictSize : Nat}

theorem resizeWindow_nearlyValid (valid : cPar.NearlyValid) (srcSize dictSize : Nat) :
    (resizeWindow cPar srcSize dictSize).NearlyValid := by
  have window := valid.windowLog
  simp only [resizeWindow]
  split
  · rename_i small
    have sum : srcSize + dictSize < 2 ^ 32 := by
      simp only [windowLogMax] at small
      omega
    rw [Nat.mod_eq_of_lt sum]
    split
    · rename_i resized
      exact ⟨⟨(srcLog_bounds _).1, by simp only; omega⟩, valid.chainLog, valid.hashLog,
        valid.searchLog, valid.minMatch, valid.targetLength⟩
    · exact valid
  · exact valid

theorem resizeWindow_windowLog (cPar : CompressionParameters) (srcSize dictSize : Nat) :
    (resizeWindow cPar srcSize dictSize).windowLog ≤ cPar.windowLog ∧
      min (2 ^ cPar.windowLog) (srcSize + dictSize) ≤
        2 ^ (resizeWindow cPar srcSize dictSize).windowLog := by
  simp only [resizeWindow]
  split
  · rename_i small
    have sum : srcSize + dictSize < 2 ^ 32 := by
      simp only [windowLogMax] at small
      omega
    rw [Nat.mod_eq_of_lt sum]
    split
    · rename_i resized
      exact ⟨by simp only; omega, le_trans (Nat.min_le_right _ _) (srcLog_bounds _).2⟩
    · exact ⟨le_refl _, Nat.min_le_left _ _⟩
  · exact ⟨le_refl _, Nat.min_le_left _ _⟩

theorem le_dictAndWindowLog {windowLog : Nat} (window : 6 ≤ windowLog ∧ windowLog ≤ windowLogMax)
    (srcSize : Nat) (fits : dictSize < 2 ^ 63) :
    6 ≤ dictAndWindowLog windowLog srcSize dictSize := by
  simp only [dictAndWindowLog]
  split
  · exact window.1
  · have lower : 2 ^ 6 ≤ 2 ^ windowLog := Nat.pow_le_pow_right (by decide) window.1
    have upper : 2 ^ windowLog ≤ 2 ^ 31 := Nat.pow_le_pow_right (by decide) window.2
    have noWrap : (dictSize + 2 ^ windowLog) % 2 ^ 64 = dictSize + 2 ^ windowLog :=
      Nat.mod_eq_of_lt (by omega)
    rw [noWrap]
    split
    · exact window.1
    · split
      · decide
      · have log : 6 ≤ highbit32 (dictSize + 2 ^ windowLog - 1) := le_highbit32 (by omega)
        omega

theorem resizeTables_windowLog (cPar : CompressionParameters) (srcSize dictSize : Nat) :
    (resizeTables cPar srcSize dictSize).windowLog = cPar.windowLog := by
  simp only [resizeTables]
  split
  · split <;> split <;> rfl
  · rfl

theorem resizeTables_nearlyValid (valid : cPar.NearlyValid) (srcSize : Nat)
    (fits : dictSize < 2 ^ 63) : (resizeTables cPar srcSize dictSize).NearlyValid := by
  have large := le_dictAndWindowLog valid.windowLog srcSize fits
  have chain := valid.chainLog
  have hash := valid.hashLog
  simp only [resizeTables]
  split
  · generalize dictAndWindowLog cPar.windowLog srcSize dictSize = dictAndWindowLog at large
    -- A cycle is at most one shorter than the chain table.
    have cycle : cPar.chainLog ≤ cycleLog cPar.chainLog cPar.strategy + 1 ∧
        cycleLog cPar.chainLog cPar.strategy ≤ cPar.chainLog := by
      rw [cycleLog]
      split <;> omega
    split
    · split
      · exact ⟨valid.windowLog, by simp only; omega, by simp only; omega, valid.searchLog,
          valid.minMatch, valid.targetLength⟩
      · exact ⟨valid.windowLog, by simp only; omega, hash, valid.searchLog, valid.minMatch,
          valid.targetLength⟩
    · split
      · exact ⟨valid.windowLog, chain, by simp only; omega, valid.searchLog, valid.minMatch,
          valid.targetLength⟩
      · exact valid
  · exact valid

theorem raiseWindow_valid (valid : cPar.NearlyValid) :
    checkCParams (raiseWindow cPar) = .ok () := by
  rw [checkCParams_ok_iff, raiseWindow]
  split
  · have bounds : 6 ≤ windowLogAbsoluteMin ∧ windowLogAbsoluteMin ≤ windowLogMax := by decide
    exact ⟨le_refl _, bounds, valid.chainLog, valid.hashLog, valid.searchLog, valid.minMatch,
      valid.targetLength⟩
  · exact ⟨by omega, valid⟩

theorem raiseWindow_windowLog (cPar : CompressionParameters) :
    (raiseWindow cPar).windowLog = max cPar.windowLog windowLogAbsoluteMin := by
  rw [raiseWindow]
  split
  · rename_i small
    exact (Nat.max_eq_right small.le).symm
  · rename_i large
    exact (Nat.max_eq_left (Nat.le_of_not_lt large)).symm

theorem limitTaggedTables_valid (valid : checkCParams cPar = .ok ()) (mode : CParamMode) :
    checkCParams (limitTaggedTables cPar mode) = .ok () := by
  rw [checkCParams_ok_iff] at valid ⊢
  rcases valid with ⟨window, nearly⟩
  have chain := nearly.chainLog
  have hash := nearly.hashLog
  simp only [limitTaggedTables]
  split
  · exact ⟨window, nearly.windowLog, by simp only; omega, by simp only; omega, nearly.searchLog,
      nearly.minMatch, nearly.targetLength⟩
  · exact ⟨window, nearly⟩

theorem limitTaggedTables_windowLog (cPar : CompressionParameters) (mode : CParamMode) :
    (limitTaggedTables cPar mode).windowLog = cPar.windowLog := by
  simp only [limitTaggedTables]
  split <;> rfl

theorem limitRowTable_valid (valid : checkCParams cPar = .ok ()) (useRowMatchFinder : ParamSwitch) :
    checkCParams (limitRowTable cPar useRowMatchFinder) = .ok () := by
  rw [checkCParams_ok_iff] at valid ⊢
  rcases valid with ⟨window, nearly⟩
  have hash := nearly.hashLog
  simp only [limitRowTable]
  generalize (if useRowMatchFinder = .auto then ParamSwitch.enable else useRowMatchFinder) = mode
  split
  · exact ⟨window, nearly.windowLog, nearly.chainLog, by simp only; omega, nearly.searchLog,
      nearly.minMatch, nearly.targetLength⟩
  · exact ⟨window, nearly⟩

theorem limitRowTable_windowLog (cPar : CompressionParameters) (useRowMatchFinder : ParamSwitch) :
    (limitRowTable cPar useRowMatchFinder).windowLog = cPar.windowLog := by
  simp only [limitRowTable]
  generalize (if useRowMatchFinder = .auto then ParamSwitch.enable else useRowMatchFinder) = mode
  split <;> rfl

end

/-! ## `ZSTD_adjustCParams_internal` -/

section

variable {cPar : CompressionParameters} {dictSize : Nat}

theorem adjustedSizes_dictSize (srcSize dictSize : Nat) (mode : CParamMode) :
    (adjustedSizes srcSize dictSize mode).2 ≤ dictSize := by
  cases mode <;> simp [adjustedSizes]

theorem adjustCParamsInternal_valid (valid : checkCParams cPar = .ok ()) (srcSize : Nat)
    (fits : dictSize < 2 ^ 63) (mode : CParamMode) (useRowMatchFinder : ParamSwitch) :
    checkCParams (adjustCParamsInternal cPar srcSize dictSize mode useRowMatchFinder) =
      .ok () := by
  rw [checkCParams_ok_iff] at valid
  have smaller := adjustedSizes_dictSize srcSize dictSize mode
  simp only [adjustCParamsInternal]
  apply limitRowTable_valid
  apply limitTaggedTables_valid
  apply raiseWindow_valid
  apply resizeTables_nearlyValid _ _ (by omega)
  exact resizeWindow_nearlyValid valid.2 _ _

theorem adjustCParamsInternal_windowLog (cPar : CompressionParameters) (srcSize dictSize : Nat)
    (mode : CParamMode) (useRowMatchFinder : ParamSwitch) :
    (adjustCParamsInternal cPar srcSize dictSize mode useRowMatchFinder).windowLog =
      max (resizeWindow cPar (adjustedSizes srcSize dictSize mode).1
        (adjustedSizes srcSize dictSize mode).2).windowLog windowLogAbsoluteMin := by
  simp only [adjustCParamsInternal]
  rw [limitRowTable_windowLog, limitTaggedTables_windowLog, raiseWindow_windowLog,
    resizeTables_windowLog]

/-- The window becomes larger only to be expressible, and smaller only as long as
it holds the input. -/
theorem adjustCParamsInternal_window (cPar : CompressionParameters) (srcSize dictSize : Nat)
    (mode : CParamMode) (useRowMatchFinder : ParamSwitch) :
    (adjustCParamsInternal cPar srcSize dictSize mode useRowMatchFinder).windowLog ≤
        max cPar.windowLog windowLogAbsoluteMin ∧
      min (2 ^ cPar.windowLog) ((adjustedSizes srcSize dictSize mode).1 +
          (adjustedSizes srcSize dictSize mode).2) ≤
        2 ^ (adjustCParamsInternal cPar srcSize dictSize mode useRowMatchFinder).windowLog := by
  have resized := resizeWindow_windowLog cPar (adjustedSizes srcSize dictSize mode).1
    (adjustedSizes srcSize dictSize mode).2
  rw [adjustCParamsInternal_windowLog]
  refine ⟨by omega, le_trans resized.2 ?_⟩
  exact Nat.pow_le_pow_right (by decide) (Nat.le_max_left _ _)

end

/-! ## Levels -/

theorem levelRow_le (compressionLevel : Int) : levelRow compressionLevel ≤ maxCLevel := by
  rw [levelRow]
  split
  · decide
  · split
    · exact Nat.zero_le _
    · split <;> omega

theorem tableID_lt (rSize : Nat) : tableID rSize < 4 := by
  rw [tableID]
  split <;> split <;> split <;> omega

theorem defaultCParameters_valid {table row : Nat} (isTable : table < 4) (isRow : row ≤ maxCLevel) :
    ∃ cPar, (defaultCParameters.getD table []).getD row ⟨0, 0, 0, 0, 0, 0, .fast⟩ = cPar ∧
      checkCParams cPar = .ok () ∧ 14 ≤ cPar.windowLog ∧ cPar.windowLog ≤ 27 := by
  have every : ∀ (table : Fin 4) (row : Fin 23),
      checkCParams ((defaultCParameters.getD table.val []).getD row.val ⟨0, 0, 0, 0, 0, 0, .fast⟩) =
        .ok () ∧
      14 ≤ ((defaultCParameters.getD table.val []).getD row.val
        ⟨0, 0, 0, 0, 0, 0, .fast⟩).windowLog ∧
      ((defaultCParameters.getD table.val []).getD row.val
        ⟨0, 0, 0, 0, 0, 0, .fast⟩).windowLog ≤ 27 := by
    decide +kernel
  exact ⟨_, rfl, every ⟨table, isTable⟩ ⟨row, Nat.lt_succ_of_le isRow⟩⟩

theorem levelParameters_valid (compressionLevel : Int) (rSize : Nat) :
    checkCParams (levelParameters compressionLevel rSize) = .ok () ∧
      14 ≤ (levelParameters compressionLevel rSize).windowLog ∧
      (levelParameters compressionLevel rSize).windowLog ≤ 27 := by
  rcases defaultCParameters_valid (tableID_lt rSize) (levelRow_le compressionLevel) with
    ⟨cPar, found, valid, window⟩
  simp only [levelParameters, found]
  split
  · rename_i negative
    rw [checkCParams_ok_iff] at valid ⊢
    refine ⟨⟨valid.1, valid.2.windowLog, valid.2.chainLog, valid.2.hashLog, valid.2.searchLog,
      valid.2.minMatch, ?_⟩, window⟩
    simp only [minCLevel]
    omega
  · exact ⟨valid, window⟩

/-- Whatever the level, the size hint and the size of the dictionary: the resolved
parameters are valid, the window is one a decoder accepts by default, and it is
that of the level unless it holds the whole input. -/
theorem getCParamsFromCCtxParams_valid (compressionLevel : Int) (srcSizeHint : Nat)
    {dictSize : Nat} (fits : dictSize < 2 ^ 63) (mode : CParamMode) :
    checkCParams (getCParamsFromCCtxParams compressionLevel srcSizeHint dictSize mode) = .ok () ∧
      2 ^ (getCParamsFromCCtxParams compressionLevel srcSizeHint dictSize mode).windowLog ≤
        maxWindowSizeDefault ∧
      min (2 ^ (levelParameters compressionLevel
          (getCParamRowSize srcSizeHint dictSize mode)).windowLog)
          ((adjustedSizes srcSizeHint dictSize mode).1 +
            (adjustedSizes srcSizeHint dictSize mode).2) ≤
        2 ^ (getCParamsFromCCtxParams compressionLevel srcSizeHint dictSize mode).windowLog := by
  simp only [getCParamsFromCCtxParams, getCParamsInternal]
  have level := levelParameters_valid compressionLevel
    (getCParamRowSize srcSizeHint dictSize mode)
  generalize levelParameters compressionLevel (getCParamRowSize srcSizeHint dictSize mode) = cPar
    at level ⊢
  have first := adjustCParamsInternal_window cPar srcSizeHint dictSize mode .auto
  have valid := adjustCParamsInternal_valid level.1 srcSizeHint fits mode .auto
  generalize adjustCParamsInternal cPar srcSizeHint dictSize mode .auto = once at first valid ⊢
  have second := adjustCParamsInternal_window once srcSizeHint dictSize mode .auto
  refine ⟨adjustCParamsInternal_valid valid srcSizeHint fits mode .auto, ?_, ?_⟩
  · have small : (adjustCParamsInternal once srcSizeHint dictSize mode .auto).windowLog ≤ 27 := by
      simp only [windowLogAbsoluteMin] at first second
      omega
    calc 2 ^ (adjustCParamsInternal once srcSizeHint dictSize mode .auto).windowLog ≤ 2 ^ 27 :=
          Nat.pow_le_pow_right (by decide) small
      _ ≤ maxWindowSizeDefault := by decide
  · -- What the first adjustment leaves room for, the second does.
    exact le_trans (le_min first.2 (Nat.min_le_right _ _)) second.2

end ZstdRuby.Libzstd
