import AsmNavigator.Proofs.Files.Join
import AsmNavigator.Source.Read

/-! # The lines of a document, on disk and in memory

A text is written from its lines and the line ends between them, each a line feed that may
follow a carriage return. Whichever line ends are written, reading the text gives the lines
back, from disk as well as from the buffer of an editor.
-/

namespace AsmNavigator

namespace Text

/-- A line with no part of a line end in it. -/
abbrev Line := { line : String // '\n' ∉ line.toList ∧ '\r' ∉ line.toList }

inductive LineEnd where
  | feed
  | returnAndFeed

def LineEnd.chars : LineEnd → List Char
  | .feed => ['\n']
  | .returnAndFeed => ['\r', '\n']

/-- Lines with the line ends between them: a first line, and further ones behind their ends. -/
structure WrittenLines where
  first : Line
  rest : List (LineEnd × Line)

def joined : Line → List (LineEnd × Line) → List Char
  | line, [] => line.1.toList
  | line, (lineEnd, next) :: rest => line.1.toList ++ (lineEnd.chars ++ joined next rest)

namespace WrittenLines

def lines (t : WrittenLines) : List String := t.first.1 :: t.rest.map fun entry => entry.2.1

def text (t : WrittenLines) : String := String.ofList (joined t.first t.rest)

end WrittenLines

/-! ## Carriage returns -/

theorem dropReturns_append_replicate {line : List Char} (h : '\r' ∉ line) (count : Nat) :
    dropReturns (line ++ List.replicate count '\r') = line := by
  have hstop : line.reverse.dropWhile (· == '\r') = line.reverse := by
    cases hline : line.reverse with
    | nil => rfl
    | cons c rest =>
        have hc : c ≠ '\r' := by
          rintro rfl
          exact h (List.mem_reverse.mp (by simp [hline]))
        simp [hc]
  unfold dropReturns
  rw [List.reverse_append, List.reverse_replicate,
    List.dropWhile_append_of_pos (by simp), hstop, List.reverse_reverse]

theorem foldLineEnds_append {cs : List Char} (h : '\r' ∉ cs) (rest : List Char) :
    foldLineEnds (cs ++ rest) = cs ++ foldLineEnds rest := by
  induction cs with
  | nil => rfl
  | cons c cs ih =>
      have hc : c ≠ '\r' := fun heq => h (by simp [heq])
      have hcs : '\r' ∉ cs := fun hmem => h (List.mem_cons_of_mem _ hmem)
      rw [List.cons_append, foldLineEnds.eq_4 _ _ (by simp [hc]) (by simp [hc]), ih hcs]
      rfl

/-! ## Reading what was written -/

/-- Cutting a text at line feeds and dropping carriage returns undoes writing it. -/
theorem lines_joined (first : Line) (rest : List (LineEnd × Line)) :
    lines (joined first rest) = first.1 :: rest.map fun entry => entry.2.1 := by
  -- what stands before a line feed is the line, with a carriage return or without
  have hline : ∀ (line : Line) (count : Nat),
      '\n' ∉ line.1.toList ++ List.replicate count '\r' ∧
        String.ofList (dropReturns (line.1.toList ++ List.replicate count '\r')) = line.1 := by
    intro line count
    refine ⟨?_, by rw [dropReturns_append_replicate line.2.2, String.ofList_toList]⟩
    rw [List.mem_append]
    rintro (hmem | hmem)
    · exact line.2.1 hmem
    · exact absurd (List.eq_of_mem_replicate hmem) (by decide)
  induction rest generalizing first with
  | nil =>
      obtain ⟨hfeed, htext⟩ := hline first 0
      rw [List.replicate_zero, List.append_nil] at hfeed htext
      simp only [lines, joined, splitOn_of_not_mem hfeed, List.map_cons, List.map_nil, htext]
  | cons entry rest ih =>
      obtain ⟨lineEnd, next⟩ := entry
      obtain ⟨count, hcount⟩ : ∃ count, lineEnd.chars = List.replicate count '\r' ++ ['\n'] := by
        cases lineEnd with
        | feed => exact ⟨0, rfl⟩
        | returnAndFeed => exact ⟨1, rfl⟩
      obtain ⟨hfeed, htext⟩ := hline first count
      have hsplit : joined first ((lineEnd, next) :: rest) =
          (first.1.toList ++ List.replicate count '\r') ++ '\n' :: joined next rest := by
        simp [joined, hcount]
      have hrest := ih next
      unfold lines at hrest ⊢
      rw [hsplit, splitOn_append hfeed, List.map_cons, htext, hrest, List.map_cons]

/-- Line ends that come from disk are all line feeds. -/
theorem foldLineEnds_joined (first : Line) (rest : List (LineEnd × Line)) :
    foldLineEnds (joined first rest) =
      joined first (rest.map fun entry => (.feed, entry.2)) := by
  induction rest generalizing first with
  | nil =>
      have h := foldLineEnds_append first.2.2 []
      rw [List.append_nil] at h
      simpa [joined, foldLineEnds] using h
  | cons entry rest ih =>
      obtain ⟨lineEnd, next⟩ := entry
      rw [joined, foldLineEnds_append first.2.2, List.map_cons, joined, ← ih next]
      cases lineEnd with
      | feed => rfl
      | returnAndFeed => rfl

theorem bufferLines_text (t : WrittenLines) : bufferLines t.text = t.lines := by
  unfold bufferLines WrittenLines.text
  rw [String.toList_ofList]
  exact lines_joined t.first t.rest

theorem diskLines_text (t : WrittenLines) : diskLines t.text = t.lines := by
  unfold diskLines WrittenLines.text
  rw [String.toList_ofList, foldLineEnds_joined, lines_joined]
  simp [WrittenLines.lines]

/-- A well-formed text is read as it stands. -/
theorem Utf8.decode_toUTF8 (s : String) : Utf8.decode s.toUTF8 = s := by
  have hread : String.fromUTF8? s.toUTF8 = some s := by
    unfold String.fromUTF8?
    rw [String.toUTF8_eq_toByteArray, dif_pos s.isValidUTF8]
    rfl
  unfold Utf8.decode
  rw [hread]

end Text

namespace Source

open Text

def Document.lines (w : World) (d : Document) : List String :=
  match d.buffer? with
  | some text => bufferLines text
  | none =>
      match w.readText d.path with
      | .ok text => diskLines text
      | .error _ => [""]

/-- A number that is no line's shows the empty line. -/
theorem Document.lineAt_eq (w : World) (d : Document) (n : Int) :
    d.lineAt w n =
      if h : 0 ≤ n ∧ n < (d.lines w).length then (d.lines w)[n.toNat] else "" := by
  have hstart : d.lineAt w n = if n < 0 then "" else (d.lines w)[n.toNat]?.getD "" := rfl
  rw [hstart]
  by_cases hneg : n < 0
  · have hno : ¬ (0 ≤ n ∧ n < (d.lines w).length) := by omega
    rw [if_pos hneg, dif_neg hno]
  · rw [if_neg hneg]
    by_cases hlt : n.toNat < (d.lines w).length
    · rw [dif_pos (by omega), List.getElem?_eq_getElem hlt, Option.getD_some]
    · rw [dif_neg (by omega), List.getElem?_eq_none (by omega), Option.getD_none]

theorem readText_of_readBytes {w : World} {p : Path} {text : String}
    (h : w.readBytes p = .ok text.toUTF8) : w.readText p = .ok text := by
  unfold World.readBytes at h
  unfold World.readText FileTree.readText
  rw [h]
  exact congrArg Except.ok (Utf8.decode_toUTF8 text)

/-- If a file holds a text, whatever its line ends, reading gives its lines, and the document
on disk and the document in a buffer that holds the text show each line at its number and
empty lines at all other numbers. -/
theorem lineAt_of_written {w : World} {p : Path} {t : WrittenLines}
    (hfile : w.readBytes p = .ok t.text.toUTF8) :
    read w p = .found t.lines ∧
      ∀ d ∈ [(⟨p, none⟩ : Document), ⟨p, some t.text⟩], ∀ n : Int,
        d.lineAt w n = if h : 0 ≤ n ∧ n < t.lines.length then t.lines[n.toNat] else "" := by
  have htext := readText_of_readBytes hfile
  refine ⟨by rw [read, htext]; exact congrArg ReadResult.found (diskLines_text t), ?_⟩
  intro d hd n
  have hlines : d.lines w = t.lines := by
    simp only [List.mem_cons, List.not_mem_nil, or_false] at hd
    rcases hd with rfl | rfl
    · simp only [Document.lines, htext, diskLines_text]
    · simp only [Document.lines, bufferLines_text]
  have hline := Document.lineAt_eq w d n
  simpa only [hlines] using hline

/-- Two kinds of line ends, an empty line and nothing behind the last line end. -/
def mixedLines : WrittenLines :=
  ⟨⟨"use a::b", by decide⟩,
    [(.returnAndFeed, ⟨"", by decide⟩), (.feed, ⟨"pub proc é", by decide⟩),
      (.returnAndFeed, ⟨"", by decide⟩)]⟩

def mixedWorld : World where
  tree := ⟨⟨[(["f.masm"], .file mixedLines.text.toUTF8)]⟩⟩
  env := ⟨⟨[]⟩, ⟨.slash, []⟩, [], 0⟩

theorem lineAt_mixedLines :
    mixedWorld.readBytes ⟨.slash, ["f.masm"]⟩ = .ok mixedLines.text.toUTF8 ∧
      read mixedWorld ⟨.slash, ["f.masm"]⟩ = .found ["use a::b", "", "pub proc é", ""] ∧
      (⟨⟨.slash, ["f.masm"]⟩, none⟩ : Document).lineAt mixedWorld 2 = "pub proc é" := by
  have hfile : mixedWorld.readBytes ⟨.slash, ["f.masm"]⟩ = .ok mixedLines.text.toUTF8 := by
    rfl
  obtain ⟨hread, hline⟩ := lineAt_of_written hfile
  exact ⟨hfile, hread, hline _ (by simp) 2⟩

end Source

end AsmNavigator
