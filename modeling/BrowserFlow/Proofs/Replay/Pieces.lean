import BrowserFlow.Proofs.Replay.Slots

/-!
# The fixed pieces of the template

The template has its six marks on lines 42 to 48. The text before, between and after them holds no
mark, and no mark reaches into it.
-/

namespace BrowserFlow.Script

def marks : List String :=
  ["\x7b\x7bFLOW_NAME\x7d\x7d", "\x7b\x7bSTEP_DELAY_MS\x7d\x7d",
    "\x7b\x7bLOCATOR_TIMEOUT_MS\x7d\x7d", "\x7b\x7bPRECONDITION_MODE\x7d\x7d",
    "\x7b\x7bDATA_FILE\x7d\x7d", "\x7b\x7bSTEPS\x7d\x7d"]

def lineChars (line : String) : List Char := line.toList ++ ['\n']

def openingLines : List String := templateLines.take 41

def closingLines : List String := (templateLines.drop 48).dropLast

/-- The text before the first mark. -/
def opening : List Char := openingLines.flatMap lineChars ++ "const flowName = ".toList

/-- The texts behind the marks, each up to the next mark or the end. -/
def pieces : List (List Char) :=
  [';' :: '\n' :: "const stepDelayMs = ".toList,
    ';' :: '\n' :: "const locatorWaitTimeoutMs = ".toList,
    ';' :: '\n' :: "const preconditionMode: 'per-step' | 'start-only' = ".toList,
    ';' :: '\n' :: "const dataPath =".toList ++
      '\n' :: "  process.env.FLOW_INPUTS ?? fileURLToPath(new URL(".toList,
    ", import.meta.url));".toList ++ '\n' :: "const steps: Step[] = ".toList,
    ';' :: '\n' :: closingLines.flatMap lineChars]

/-- The template with these texts in the places of its marks. -/
def assembled (texts : List (List Char)) : List Char := weave opening (texts.zip pieces)

/-! ### The template in pieces -/

theorem intercalate_concat (separator last : List Char) (lines : List (List Char)) :
    separator.intercalate (lines ++ [last]) = lines.flatMap (· ++ separator) ++ last := by
  induction lines with
  | nil => simp
  | cons line lines ih =>
      cases lines with
      | nil => simp [List.intercalate_cons_cons]
      | cons next lines =>
          rw [List.cons_append, List.cons_append, List.intercalate_cons_cons, ← List.cons_append,
            ih]
          simp

/-- A line is cut by its characters: to cut the string, it would have to be decoded first. -/
theorem lineChars_of_append {line lead mark tail : List Char} (h : line = lead ++ (mark ++ tail)) :
    lineChars (String.ofList line) =
      (String.ofList lead).toList ++ ((String.ofList mark).toList ++
        ((String.ofList tail).toList ++ ['\n'])) := by
  rw [lineChars, String.toList_ofList, String.toList_ofList, String.toList_ofList,
    String.toList_ofList, h]
  simp

/-- The lines with the marks, and the one among them that has none. -/
def markLines : List String :=
  ["const flowName = \x7b\x7bFLOW_NAME\x7d\x7d;",
    "const stepDelayMs = \x7b\x7bSTEP_DELAY_MS\x7d\x7d;",
    "const locatorWaitTimeoutMs = \x7b\x7bLOCATOR_TIMEOUT_MS\x7d\x7d;",
    "const preconditionMode: 'per-step' | 'start-only' = \x7b\x7bPRECONDITION_MODE\x7d\x7d;",
    "const dataPath =",
    "  process.env.FLOW_INPUTS ?? fileURLToPath(new URL(\x7b\x7bDATA_FILE\x7d\x7d, import.meta.url));",
    "const steps: Step[] = \x7b\x7bSTEPS\x7d\x7d;"]

set_option maxRecDepth 4000 in
theorem templateLines_eq :
    templateLines = (openingLines ++ markLines ++ closingLines) ++ [""] := rfl

theorem template_eq_flatMap :
    template.toList = (openingLines ++ markLines ++ closingLines).flatMap lineChars := by
  have hnewline : "\n".toList = ['\n'] := rfl
  have hempty : "".toList = [] := rfl
  rw [template, String.toList_intercalate, hnewline, templateLines_eq, List.map_append,
    List.map_singleton, intercalate_concat, List.flatMap_map, hempty, List.append_nil]
  rfl

theorem template_eq_assembled : template.toList = assembled (marks.map String.toList) := by
  have hend : ";".toList = [';'] := rfl
  have hname : lineChars "const flowName = \x7b\x7bFLOW_NAME\x7d\x7d;" =
      "const flowName = ".toList ++ ("\x7b\x7bFLOW_NAME\x7d\x7d".toList ++
        (";".toList ++ ['\n'])) := lineChars_of_append rfl
  have hdelay : lineChars "const stepDelayMs = \x7b\x7bSTEP_DELAY_MS\x7d\x7d;" =
      "const stepDelayMs = ".toList ++ ("\x7b\x7bSTEP_DELAY_MS\x7d\x7d".toList ++
        (";".toList ++ ['\n'])) := lineChars_of_append rfl
  have htimeout : lineChars "const locatorWaitTimeoutMs = \x7b\x7bLOCATOR_TIMEOUT_MS\x7d\x7d;" =
      "const locatorWaitTimeoutMs = ".toList ++ ("\x7b\x7bLOCATOR_TIMEOUT_MS\x7d\x7d".toList ++
        (";".toList ++ ['\n'])) := lineChars_of_append rfl
  have hmode : lineChars
      "const preconditionMode: 'per-step' | 'start-only' = \x7b\x7bPRECONDITION_MODE\x7d\x7d;" =
      "const preconditionMode: 'per-step' | 'start-only' = ".toList ++
        ("\x7b\x7bPRECONDITION_MODE\x7d\x7d".toList ++ (";".toList ++ ['\n'])) :=
    lineChars_of_append rfl
  have hdata : lineChars
      "  process.env.FLOW_INPUTS ?? fileURLToPath(new URL(\x7b\x7bDATA_FILE\x7d\x7d, import.meta.url));" =
      "  process.env.FLOW_INPUTS ?? fileURLToPath(new URL(".toList ++
        ("\x7b\x7bDATA_FILE\x7d\x7d".toList ++ (", import.meta.url));".toList ++ ['\n'])) :=
    lineChars_of_append rfl
  have hsteps : lineChars "const steps: Step[] = \x7b\x7bSTEPS\x7d\x7d;" =
      "const steps: Step[] = ".toList ++ ("\x7b\x7bSTEPS\x7d\x7d".toList ++
        (";".toList ++ ['\n'])) := lineChars_of_append rfl
  have hpath : lineChars "const dataPath =" = "const dataPath =".toList ++ ['\n'] := rfl
  rw [template_eq_flatMap, List.flatMap_append, List.flatMap_append]
  simp only [markLines, hname, hdelay, htimeout, hmode, hpath, hdata, hsteps, hend, assembled,
    marks, opening, pieces, weave, List.flatMap_cons, List.flatMap_nil, List.map_cons,
    List.map_nil, List.zip_cons_cons, List.zip_nil_right, List.append_assoc, List.cons_append,
    List.nil_append, List.append_nil]

/-! ### No mark in the pieces -/

/-- The lines as characters. -/
def Spells (lines : List String) (texts : List (List Char)) : Prop :=
  lines = texts.map String.ofList

theorem spells_nil : Spells [] [] := rfl

theorem spells_cons {line : List Char} {lines : List String} {texts : List (List Char)}
    (h : Spells lines texts) : Spells (String.ofList line :: lines) (line :: texts) := by
  rw [Spells, List.map_cons, h]

theorem bracesApart_flatMap_lineChars {lines : List String} {texts : List (List Char)}
    (hlines : Spells lines texts) (htexts : texts.all bracesApart = true) (rest : List Char) :
    bracesApart (lines.flatMap lineChars ++ rest) = bracesApart rest := by
  subst hlines
  induction texts with
  | nil => rfl
  | cons text texts ih =>
      rw [List.all_cons, Bool.and_eq_true] at htexts
      have hnewline : isMarkChar '\n' = false := by decide
      have hline : lineChars (String.ofList text) = text ++ ['\n'] := by
        rw [lineChars, String.toList_ofList]
      rw [List.map_cons, List.flatMap_cons, hline, List.append_assoc, List.append_assoc,
        List.singleton_append, bracesApart_append hnewline, htexts.1, ih htexts.2, Bool.true_and]

theorem bracesApart_opening (rest : List Char) :
    bracesApart (openingLines.flatMap lineChars ++ rest) = bracesApart rest := by
  apply bracesApart_flatMap_lineChars
  · repeat apply spells_cons
    exact spells_nil
  · decide +kernel

set_option maxRecDepth 4000 in
theorem bracesApart_closing (rest : List Char) :
    bracesApart (closingLines.flatMap lineChars ++ rest) = bracesApart rest := by
  apply bracesApart_flatMap_lineChars
  · repeat apply spells_cons
    exact spells_nil
  · decide +kernel

theorem exists_flatMap_lineChars (lines : List String) :
    ∃ front, '\n' :: lines.flatMap lineChars = front ++ ['\n'] := by
  rcases List.eq_nil_or_concat' lines with rfl | ⟨before, line, rfl⟩
  · exact ⟨[], rfl⟩
  · refine ⟨'\n' :: before.flatMap lineChars ++ line.toList, ?_⟩
    simp [List.flatMap_append, lineChars]

theorem isFixed_opening : IsFixed opening := by
  have hend : "const flowName = ".toList = "const flowName =".toList ++ [' '] := rfl
  refine ⟨?_, ?_, ?_⟩
  · rw [opening, bracesApart_opening]
    decide
  · have hline : ∀ {c : Char} {line : List Char},
        lineChars (String.ofList (c :: line)) = c :: (line ++ ['\n']) := by
      intro c line
      rw [lineChars, String.toList_ofList, List.cons_append]
    obtain ⟨first, rest, hlines, hfirst⟩ : ∃ first rest, openingLines = first :: rest ∧
        ∃ line, lineChars first = 'i' :: line := ⟨_, _, rfl, _, hline⟩
    obtain ⟨line, hline⟩ := hfirst
    rw [opening, hlines, List.flatMap_cons, hline]
    exact ⟨'i', _, rfl, by decide⟩
  · rw [opening, hend, ← List.append_assoc]
    exact ⟨_, ' ', rfl, by decide⟩

theorem isFixed_closing : IsFixed (';' :: '\n' :: closingLines.flatMap lineChars) := by
  have hbreak : bracesApart ([';'] ++ '\n' :: closingLines.flatMap lineChars) = true := by
    have hlines := bracesApart_closing []
    rw [List.append_nil] at hlines
    rw [bracesApart_append (by decide), hlines]
    rfl
  obtain ⟨front, hfront⟩ := exists_flatMap_lineChars closingLines
  exact ⟨hbreak, ⟨';', _, rfl, by decide⟩, ';' :: front, '\n', by rw [hfront]; rfl, by decide⟩

/-- The conditions on fixed text as a check. -/
def isFixed (text : List Char) : Bool :=
  bracesApart text && text.head?.any (!isMarkChar ·) && text.getLast?.any (!isMarkChar ·)

theorem isFixed_of_check {text : List Char} (h : isFixed text = true) : IsFixed text := by
  simp only [isFixed, Bool.and_eq_true, Option.any_eq_true, Bool.not_eq_true'] at h
  obtain ⟨⟨hapart, c, hhead, hc⟩, d, hlast, hd⟩ := h
  obtain ⟨rest, hrest⟩ := List.head?_eq_some_iff.mp hhead
  obtain ⟨front, hfront⟩ := List.getLast?_eq_some_iff.mp hlast
  exact ⟨hapart, ⟨c, rest, hrest, hc⟩, front, d, hfront, hd⟩

theorem isFixed_between : ∀ piece ∈ pieces.dropLast, isFixed piece = true := by decide +kernel

theorem isFixed_pieces : ∀ piece ∈ pieces, IsFixed piece := by
  have hsplit : pieces = pieces.dropLast ++ [';' :: '\n' :: closingLines.flatMap lineChars] := rfl
  intro piece hpiece
  rw [hsplit] at hpiece
  rcases List.mem_append.mp hpiece with hpiece | hpiece
  · exact isFixed_of_check (isFixed_between piece hpiece)
  · rw [List.mem_singleton.mp hpiece]
    exact isFixed_closing

end BrowserFlow.Script
