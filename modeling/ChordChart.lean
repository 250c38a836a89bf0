import ChordChart.Chart
import ChordChart.Chord.Grammar
import ChordChart.Json.Music
import ChordChart.Proofs.Chord.Reading
import ChordChart.Proofs.Line.Replacement
import ChordChart.Proofs.Pitch.Moving
import ChordChart.Proofs.Transposition.Rewriting
import ChordChart.Proofs.Transposition.Requests
import ChordChart.Proofs.Transposition.Session
import ChordChart.Proofs.Transposition.ReadBack
import ChordChart.Proofs.Transposition.Composition
import ChordChart.Proofs.Chord.Longest
import ChordChart.Proofs.Line.Boundary
import ChordChart.Proofs.Line.Completeness
import ChordChart.Proofs.Transposition.Separators
import ChordChart.Proofs.Transposition.Enharmony
import ChordChart.Proofs.Transposition.Frame
import ChordChart.Proofs.Line.Occurrence
import ChordChart.Proofs.Line.Renaming
import ChordChart.Proofs.Transposition.Spelling
import ChordChart.Proofs.Text.Tidying
import ChordChart.Proofs.Key.Naming
import ChordChart.Proofs.Key.Marker
import ChordChart.Proofs.Key.LetterCase
import ChordChart.Proofs.Key.Leading
import ChordChart.Proofs.Json.Forms
import ChordChart.Proofs.Text.Searching
import ChordChart.Proofs.Chord.Searching
import ChordChart.Proofs.Text.Layouts
import ChordChart.Proofs.Chord.Layouts
import ChordChart.Proofs.Line.Matching
import ChordChart.Proofs.Transposition.Journal
import ChordChart.Proofs.Transposition.Agreement
import ChordChart.Proofs.Line.Neighbours
import ChordChart.Proofs.Transposition.Octaves
import ChordChart.Proofs.Chord.Outline
import ChordChart.Proofs.Transposition.AnyText
import ChordChart.Proofs.Transposition.SlashChords
import ChordChart.Proofs.Transposition.Names
import ChordChart.Proofs.Json.Lossless
