import Gazette.Proofs.Cache.Codec
import Gazette.Proofs.Json.Members

/-!
# Cached articles that anyone wrote

* `BylinedArticle.CarriedBy members article`: an object with these members says what the article is.
* `ofCached_iff_carriedBy`: that article is read from cached octets of the object, and none if the members say of none.
  Neither their order nor other members matter.
-/

namespace Gazette.BylinedArticle

open Json (Fields Format IsObject IsValue Once OrNull SpelledAs Spells named)

/-- All that has to be there is there once, as a value of its field. An image may be missing or null. -/
structure CarriedBy (members : List (String × Bytes)) (article : BylinedArticle) : Prop where
  id : Once "id" (SpelledAs Uuid.parse · article.id) members
  authorId : Once "authorId" (SpelledAs Uuid.parse · article.authorId) members
  author : Once "author" (Spells · article.author) members
  title : Once "title" (Spells · article.title) members
  content : Once "content" (Spells · article.content) members
  imageUrl : named "imageUrl" members = [] ∧ article.imageUrl = none ∨
    Once "imageUrl" (OrNull Spells · article.imageUrl) members
  category : Once "category" (Spells · article.category) members
  createdAt : Once "createdAt" (SpelledAs Timestamp.parseRelaxed · article.createdAt) members
  updatedAt : Once "updatedAt" (SpelledAs Timestamp.parseRelaxed · article.updatedAt) members

variable {members others : List (String × Bytes)} {octets otherOctets : Bytes} {article : BylinedArticle}

/-! ## What is read -/

theorem exact_fields : fields.Exact :=
  ⟨Format.reads_uuid.exact, Format.reads_uuid.exact, Format.reads_text.exact, Format.reads_text.exact,
    Format.reads_text.exact, Json.Reader.Reads.exact Format.reads_text.optional, Format.reads_text.exact,
    Format.reads_time.exact, Format.reads_time.exact, trivial⟩

def values (article : BylinedArticle) :
    Json.Values [Uuid, Uuid, String, String, String, Option String, String, Timestamp, Timestamp] :=
  (article.id, article.authorId, article.author, article.title, article.content, article.imageUrl, article.category,
    article.createdAt, article.updatedAt, ())

theorem found_iff_carriedBy (values : ∀ member ∈ members, IsValue member.2) :
    fields.Found members article.values ↔ article.CarriedBy members := by
  simp only [fields, BylinedArticle.values, Fields.Found, Json.Field.found_required Format.reads_uuid values,
    Json.Field.found_required Format.reads_text values, Json.Field.found_required Format.reads_time values,
    Json.Field.found_optional Format.reads_text values]
  constructor
  · rintro ⟨id, authorId, author, title, content, imageUrl, category, createdAt, updatedAt, _⟩
    exact ⟨id, authorId, author, title, content, imageUrl, category, createdAt, updatedAt⟩
  · rintro ⟨id, authorId, author, title, content, imageUrl, category, createdAt, updatedAt⟩
    exact ⟨id, authorId, author, title, content, imageUrl, category, createdAt, updatedAt, trivial⟩

theorem ofCached_eq_ok :
    ofCached octets = .ok article ↔ (Format.record "ArticleWithAuthor" fields).decode octets = .ok article.values := by
  have decoded : format.decode octets = ((Format.record "ArticleWithAuthor" fields).decode octets).map _ :=
    Format.decode_via _ _ _ octets
  rw [ofCached, decoded]
  cases (Format.record "ArticleWithAuthor" fields).decode octets with
  | error e => simp
  | ok values =>
    simp only [Fallible.map_ok, Fallible.mapError_ok, Except.ok.injEq]
    constructor <;> rintro rfl <;> rfl

theorem ofCached_iff (isObject : IsObject members octets) :
    ofCached octets = .ok article ↔ article.CarriedBy members := by
  rw [ofCached_eq_ok, Json.decode_record_iff exact_fields distinct_names isObject,
    found_iff_carriedBy isObject.isValue]

/-! ## What does not matter -/

def known (members : List (String × Bytes)) : List (String × Bytes) :=
  members.filter fun member => member.1 ∈ fields.names

theorem named_known {name : String} (isField : name ∈ fields.names) (members : List (String × Bytes)) :
    named name (known members) = named name members := by
  rw [named, known, List.filter_filter, named]
  congr 1
  funext member
  by_cases same : member.1 = name
  · simp [same, isField]
  · simp [same]

theorem CarriedBy.of_perm (carried : article.CarriedBy members) (same : (known members).Perm (known others)) :
    article.CarriedBy others := by
  have perm {name : String} (isField : name ∈ fields.names) : (named name members).Perm (named name others) := by
    rw [← named_known isField members, ← named_known isField others]
    exact same.filter _
  exact {
    id := carried.id.of_perm (perm (by decide))
    authorId := carried.authorId.of_perm (perm (by decide))
    author := carried.author.of_perm (perm (by decide))
    title := carried.title.of_perm (perm (by decide))
    content := carried.content.of_perm (perm (by decide))
    imageUrl := by
      have image : (named "imageUrl" members).Perm (named "imageUrl" others) := perm (by decide)
      rcases carried.imageUrl with ⟨none, noImage⟩ | once
      · rw [none] at image
        exact .inl ⟨image.symm.eq_nil, noImage⟩
      · exact .inr (once.of_perm image)
    category := carried.category.of_perm (perm (by decide))
    createdAt := carried.createdAt.of_perm (perm (by decide))
    updatedAt := carried.updatedAt.of_perm (perm (by decide)) }

/-- From an object that anyone wrote, an article is read exactly if the members say what it is. It is read from every
object whose members for the fields are the same, in any order and with any others beside them. -/
theorem ofCached_iff_carriedBy (isObject : IsObject members octets) :
    (∀ article, ofCached octets = .ok article ↔ article.CarriedBy members) ∧
      ∀ others otherOctets, IsObject others otherOctets → (known members).Perm (known others) →
        ∀ article, ofCached octets = .ok article → ofCached otherOctets = .ok article := by
  refine ⟨fun article => ofCached_iff isObject, ?_⟩
  intro others otherOctets alsoObject same article read
  exact (ofCached_iff alsoObject).mpr (((ofCached_iff isObject).mp read).of_perm same)

/-! ## Objects of articles -/

def parts (article : BylinedArticle) : List (String × Bytes) :=
  article.members.map fun member => (member.1, Json.octetsOf member.2.compactText)

theorem isValue_parts (article : BylinedArticle) : ∀ member ∈ article.parts, IsValue member.2 := by
  intro member there
  obtain ⟨⟨_, value⟩, _, rfl⟩ := List.mem_map.mp there
  exact (Json.written_compactText value).isValue

theorem carriedBy_parts (leaps : article.LeapsEndMinutes) : article.CarriedBy article.parts where
  id := ⟨_, rfl, _, Json.spells_quote _, Uuid.parse_toText _⟩
  authorId := ⟨_, rfl, _, Json.spells_quote _, Uuid.parse_toText _⟩
  author := ⟨_, rfl, Json.spells_quote _⟩
  title := ⟨_, rfl, Json.spells_quote _⟩
  content := ⟨_, rfl, Json.spells_quote _⟩
  imageUrl := by
    refine .inr ⟨_, rfl, ?_⟩
    cases article.imageUrl with
    | none => rfl
    | some url =>
      have quoted : Json.octetsOf (Json.quote url) = _ := Json.octets_quote url
      refine ⟨?_, Json.spells_quote url⟩
      show Json.octetsOf (Json.quote url) ≠ Json.octetsOf Json.nullText
      rw [quoted]
      exact fun same => absurd (List.cons.inj same).1 (by decide)
  category := ⟨_, rfl, Json.spells_quote _⟩
  createdAt := ⟨_, rfl, _, Json.spells_quote _, leaps.1.parseRelaxed_toRfc3339⟩
  updatedAt := ⟨_, rfl, _, Json.spells_quote _, leaps.2.parseRelaxed_toRfc3339⟩

def aNote : BylinedArticle :=
  let moment : Timestamp := (Timestamp.ofParts? 1600000000 0).get rfl
  ⟨⟨7⟩, ⟨1⟩, "Ada Lovelace", "Notes", "On the engine", none, "science", moment, moment⟩

/-- The note's object the other way round, with tags in front that no article has. -/
def aTaggedNote : List (String × Bytes) :=
  ("tags", Json.octetsOf (Json.compactText (.list [.object [("deep", .list [.null])], .number 12])))
    :: aNote.parts.reverse

theorem ofCached_iff_carriedBy_aTaggedNote :
    ∃ octets otherOctets, IsObject aNote.parts octets ∧ IsObject aTaggedNote otherOctets ∧
      (known aNote.parts).Perm (known aTaggedNote) ∧
      ofCached octets = .ok aNote ∧ ofCached otherOctets = .ok aNote := by
  obtain ⟨octets, isObject⟩ := Json.exists_isObject aNote.isValue_parts
  have values : ∀ member ∈ aTaggedNote, IsValue member.2 := by
    refine List.forall_mem_cons.mpr ⟨(Json.written_compactText _).isValue, ?_⟩
    exact fun member there => aNote.isValue_parts member (List.mem_reverse.mp there)
  obtain ⟨otherOctets, alsoObject⟩ := Json.exists_isObject values
  have same : (known aNote.parts).Perm (known aTaggedNote) := by
    rw [known, known, aTaggedNote, List.filter_cons_of_neg (by decide), List.filter_reverse]
    exact (List.reverse_perm _).symm
  obtain ⟨reads, keeps⟩ := ofCached_iff_carriedBy isObject
  have read := (reads aNote).mpr (carriedBy_parts (by decide))
  exact ⟨octets, otherOctets, isObject, alsoObject, same, read, keeps _ _ alsoObject same aNote read⟩

end Gazette.BylinedArticle
