import Gazette.Command.Run
import Gazette.Proofs.Article.Format

/-!
# Layouts of JSON

* `OutputFormat.Restores`: what a layout writes is JSON of the values, and the values that it shows are found in it.
* `OutputFormat.restores_all`: both layouts restore whatever there is to print, articles as they are shown.
-/

namespace Gazette.Command.OutputFormat

open Json (Format Written)

variable {α : Type}

structure Restores (layout : OutputFormat) (format : Format α) (shown : α → α) : Prop where
  written : ∀ value, Written (format.write value) (Utf8.encode (layout.write format value))
  restored : ∀ value, format.decode (Utf8.encode (layout.write format value)) = .ok (shown value)

/-- Both layouts write texts of the same value: blanks may stand between its parts. -/
theorem written_write (layout : OutputFormat) (format : Format α) (value : α) :
    Written (format.write value) (Utf8.encode (layout.write format value)) := by
  cases layout with
  | json => exact Json.written_compact _
  | pretty => exact Json.written_indented _

theorem restores_of_gives (layout : OutputFormat) {format : Format α} {shown : α → α}
    (gives : ∀ value, format.Gives value (shown value)) : layout.Restores format shown where
  written := layout.written_write format
  restored value := (gives value).decode_of_written (layout.written_write format value)

/-- Authors, drafts and revisions are found as they were. So are articles and listings, unless there is a moment in a
leap second in the midst of a minute, which is found in the second after it. -/
theorem restores_all (layout : OutputFormat) :
    layout.Restores Author.format id ∧ layout.Restores Draft.format id ∧ layout.Restores Revision.format id ∧
      layout.Restores Article.format Article.asShown ∧ layout.Restores Listing.format Listing.asShown ∧
      (∀ article : Article, article.asShown = article ↔ article.LeapsEndMinutes) ∧
      ∀ listing : Listing, listing.asShown = listing ↔ ∀ article ∈ listing.articles, article.LeapsEndMinutes :=
  ⟨layout.restores_of_gives Author.faithful_format, layout.restores_of_gives Draft.faithful_format,
    layout.restores_of_gives Revision.faithful_format, layout.restores_of_gives Article.gives_format,
    layout.restores_of_gives Listing.gives_format, fun _ => Article.asShown_eq_iff, fun _ => Listing.asShown_eq_iff⟩

theorem altered_aStrayNote :
    let note := BylinedArticle.aStrayNote.toArticle
    Article.format.decode (Utf8.encode (json.write Article.format note))
        = .ok { note with createdAt := note.updatedAt } ∧
      Article.format.decode (Utf8.encode (pretty.write Article.format note))
        = .ok { note with createdAt := note.updatedAt } ∧
      note.updatedAt ≠ note.createdAt := by
  intro note
  have shown : note.asShown = { note with createdAt := note.updatedAt } := by decide
  have read (layout : OutputFormat) : Article.format.decode (Utf8.encode (layout.write Article.format note))
      = .ok { note with createdAt := note.updatedAt } := by
    rw [← shown]
    exact (layout.restores_of_gives Article.gives_format).restored note
  exact ⟨read .json, read .pretty, by decide⟩

end Gazette.Command.OutputFormat
