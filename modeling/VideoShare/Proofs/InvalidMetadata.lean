import VideoShare.Proofs.AsciiText
import VideoShare.Proofs.Callers

/-!
# Invalid metadata

The metadata of a video is looked at twice: when the form is read, for what kind of value each field holds, and when the data is put
together, for how long the texts are and whether the duration is negative. A form that is not read is refused with all that is wrong with
it. Data that is refused after that is answered like a failure of the site. In both cases nothing has happened yet. So a request with
invalid metadata is refused as it should be exactly when its form is not read (`answers_to_invalid_metadata`).
-/

namespace VideoShare

/-! ## Checked values -/

namespace Checked

variable {α β : Type}

/-- Nothing is wrong. -/
def Passes (x : Checked α) : Prop := ∃ a, x = .ok a

theorem not_passes_iff {x : Checked α} : ¬x.Passes ↔ ∃ errors, x = .error errors := by
  cases x with
  | error errors => exact iff_of_true (by rintro ⟨a, h⟩; cases h) ⟨errors, rfl⟩
  | ok a => exact iff_of_false (not_not_intro ⟨a, rfl⟩) (by rintro ⟨errors, h⟩; cases h)

@[simp] theorem passes_map {f : α → β} {x : Checked α} : (f <$> x : Checked β).Passes ↔ x.Passes := by
  constructor
  · rintro ⟨b, h⟩
    obtain ⟨a, ha, -⟩ := Http.map_eq_ok h
    exact ⟨a, ha⟩
  · rintro ⟨a, rfl⟩
    exact ⟨f a, rfl⟩

@[simp] theorem passes_seq {f : Checked (α → β)} {x : Checked α} : (f <*> x : Checked β).Passes ↔ f.Passes ∧ x.Passes := by
  constructor
  · rintro ⟨b, h⟩
    obtain ⟨g, a, hg, ha, -⟩ := Http.seq_eq_ok h
    exact ⟨⟨g, hg⟩, ⟨a, ha⟩⟩
  · rintro ⟨⟨g, rfl⟩, ⟨a, rfl⟩⟩
    exact ⟨g a, rfl⟩

end Checked

section Reading

variable {α : Type} {fields : Fields} {name : String} {read : FieldReader α} {default : α}

theorem passes_readAt {place : List Place} {v : Json} : (readAt place read v).Passes ↔ ∃ a, read v = .ok a := by
  unfold readAt
  cases read v with
  | ok a => exact iff_of_true ⟨a, rfl⟩ ⟨a, rfl⟩
  | error f => exact iff_of_false (by rintro ⟨a, h⟩; cases h) (by rintro ⟨a, h⟩; cases h)

/-- A field that has to be given passes when it is given and can be read. -/
theorem passes_required {v : Json} (h : Json.lastField? name fields = some v) :
    (required fields name read).Passes ↔ ∃ a, read v = .ok a := by
  rw [required, h]
  exact passes_readAt

theorem passes_optional {v : Json} (h : Json.lastField? name fields = some v) :
    (optional fields name default read).Passes ↔ ∃ a, read v = .ok a := by
  rw [optional, h]
  exact passes_readAt

/-- A text has a number of characters within bounds. -/
def HasLength (least most : Nat) (s : String) : Prop := least ≤ s.length ∧ s.length ≤ most

instance (least most : Nat) (s : String) : Decidable (HasLength least most s) :=
  inferInstanceAs (Decidable (least ≤ s.length ∧ s.length ≤ most))

theorem readTextWithin_iff {least most : Nat} {s : String} :
    (∃ a, readTextWithin least most (.str s) = .ok a) ↔ HasLength least most s := by
  simp only [readTextWithin, readText, HasLength]
  split_ifs <;> simp <;> omega

theorem orNull_optionalText {s : Option String} {read : FieldReader String} :
    (∃ a, orNull read (optionalText s) = .ok a) ↔ ∀ t, s = some t → ∃ a, read (.str t) = .ok a := by
  cases s with
  | none => simp [optionalText, orNull]
  | some t =>
    simp only [optionalText, orNull, Option.map_some, Option.getD_some, Option.some.injEq, forall_eq']
    cases read (.str t) <;> simp

/-- A text without bounds can be read. -/
theorem orNull_readText (s : Option String) : ∃ a, orNull readText (optionalText s) = .ok a :=
  orNull_optionalText.mpr fun t _ => ⟨t, rfl⟩

end Reading

/-! ## Metadata within its bounds -/

/-- The metadata of a new video is within its bounds. -/
structure NewVideo.Within (d : NewVideo) : Prop where
  title : HasLength 1 255 d.title
  category : HasLength 1 100 d.category
  duration : 0 ≤ d.duration

/-- The changes of a video's metadata are within their bounds. -/
structure VideoChanges.Within (c : VideoChanges) : Prop where
  title : ∀ t, c.title = some t → HasLength 1 255 t
  category : ∀ t, c.category = some t → HasLength 1 100 t

/-- The data of a new video is taken exactly when it is within its bounds. -/
theorem passes_newVideo (d : NewVideo) : (NewVideo.ofJson d.toJson).Passes ↔ d.Within := by
  have hduration : (∃ a, readIntegerFrom 0 (.int d.duration) = .ok a) ↔ 0 ≤ d.duration := by
    simp only [readIntegerFrom, readInteger]
    split_ifs <;> simp <;> omega
  change (NewVideo.ofFields _).Passes ↔ _
  simp only [NewVideo.ofFields, Checked.passes_seq, Checked.passes_map]
  rw [passes_required (v := .str d.title) rfl, passes_optional (v := optionalText d.description) rfl,
    passes_required (v := .str d.category) rfl, passes_optional (v := optionalText d.language) rfl,
    passes_optional (v := .int d.duration) rfl, readTextWithin_iff, readTextWithin_iff, hduration]
  simp only [orNull_readText, and_true]
  exact ⟨fun ⟨⟨htitle, hcategory⟩, hduration⟩ => ⟨htitle, hcategory, hduration⟩,
    fun h => ⟨⟨h.title, h.category⟩, h.duration⟩⟩

/-- Changes are taken exactly when they are within their bounds. -/
theorem passes_videoChanges (c : VideoChanges) : (VideoChanges.ofJson c.toJson).Passes ↔ c.Within := by
  change (VideoChanges.ofFields _).Passes ↔ _
  simp only [VideoChanges.ofFields, Checked.passes_seq, Checked.passes_map]
  rw [passes_optional (v := optionalText c.title) rfl, passes_optional (v := optionalText c.description) rfl,
    passes_optional (v := optionalText c.category) rfl]
  simp only [orNull_readText, and_true, orNull_optionalText, readTextWithin_iff]
  exact ⟨fun ⟨htitle, hcategory⟩ => ⟨htitle, hcategory⟩, fun h => ⟨h.title, h.category⟩⟩

namespace Http

/-! ## Fields of forms -/

/-- A field that has to be sent is there, and can be read. -/
def Given {α : Type} (form : Form) (name : String) (read : FormValue → Except FieldFault α) : Prop :=
  ∃ v, sentField? form name = some v ∧ ∃ a, read v = .ok a

/-- A field can be read if it is there. -/
def ReadIfGiven {α : Type} (form : Form) (name : String) (read : FormValue → Except FieldFault α) : Prop :=
  ∀ v, sentField? form name = some v → ∃ a, read v = .ok a

section Forms

variable {α : Type} {form : Form} {name : String} {read : FormValue → Except FieldFault α} {a : α} {o : Option α}

theorem eq_ok_of_checkedAt {place : List Place} {x : Except FieldFault α} (h : checkedAt place x = .ok a) : x = .ok a := by
  cases x with
  | ok b =>
    cases h
    rfl
  | error f => cases h

theorem passes_checkedAt {place : List Place} {x : Except FieldFault α} : (checkedAt place x).Passes ↔ ∃ a, x = .ok a := by
  constructor
  · rintro ⟨a, h⟩
    exact ⟨a, eq_ok_of_checkedAt h⟩
  · rintro ⟨a, rfl⟩
    exact ⟨a, rfl⟩

theorem passes_sent : (sent form name read).Passes ↔ Given form name read := by
  unfold sent Given
  cases sentField? form name with
  | none => exact iff_of_false (by rintro ⟨a, h⟩; cases h) (by simp)
  | some v => simp only [passes_checkedAt, Option.some.injEq, exists_eq_left']

theorem passes_sent? : (sent? form name read).Passes ↔ ReadIfGiven form name read := by
  unfold sent? ReadIfGiven
  cases sentField? form name with
  | none => exact iff_of_true ⟨none, rfl⟩ (by simp)
  | some v => simp only [Checked.passes_map, passes_checkedAt, Option.some.injEq, forall_eq']

/-- The value of a field that has to be sent. -/
theorem field_of_sent (h : sent form name read = .ok a) : ∃ v, sentField? form name = some v ∧ read v = .ok a := by
  unfold sent at h
  split at h
  · rename_i v hv
    exact ⟨v, hv, eq_ok_of_checkedAt h⟩
  · cases h

/-- The value of a field that need not be sent. -/
theorem field_of_sent? (h : sent? form name read = .ok o) :
    (sentField? form name = none ∧ o = none) ∨ ∃ v a, sentField? form name = some v ∧ read v = .ok a ∧ o = some a := by
  unfold sent? at h
  split at h
  · rename_i v hv
    obtain ⟨a, ha, rfl⟩ := map_eq_ok h
    exact Or.inr ⟨v, a, hv, eq_ok_of_checkedAt ha, rfl⟩
  · rename_i hnone
    cases h
    exact Or.inl ⟨hnone, rfl⟩

theorem formText_eq_ok {v : FormValue} {s : String} : formText v = .ok s ↔ v = .text s := by
  cases v <;> simp [formText]

end Forms

/-! ## Forms of videos -/

section Videos

variable (form : Form)

/-- The fields of a form for a new video hold what they should hold. -/
structure ReadableUpload : Prop where
  title : Given form "title" formText
  category : Given form "category" formText
  description : ReadIfGiven form "description" formText
  language : ReadIfGiven form "language" formText
  duration : ReadIfGiven form "duration" formInteger
  thumbnail : Given form "thumbnail" formFile
  content : Given form "video" formFile

/-- The fields of a form for changes of a video hold what they should hold. -/
structure ReadableChange : Prop where
  title : ReadIfGiven form "title" formText
  description : ReadIfGiven form "description" formText
  category : ReadIfGiven form "category" formText
  thumbnail : ReadIfGiven form "thumbnail" formFile
  content : ReadIfGiven form "video" formFile

/-- A field of a form is a text whose number of characters is within bounds. -/
def FormValue.TextWithin (least most : Nat) (v : FormValue) : Prop := ∃ s, v = .text s ∧ HasLength least most s

/-- What a form for a new video says of its title, its category and its duration is within the bounds of a new video. -/
structure ValidUpload : Prop where
  title : ∃ v, sentField? form "title" = some v ∧ v.TextWithin 1 255
  category : ∃ v, sentField? form "category" = some v ∧ v.TextWithin 1 100
  duration : ∀ v, sentField? form "duration" = some v → ∃ n, formInteger v = .ok n ∧ 0 ≤ n

/-- What a form for changes of a video says of its title and its category, if it says anything, is within the bounds of changes. -/
structure ValidChange : Prop where
  title : ∀ v, sentField? form "title" = some v → v.TextWithin 1 255
  category : ∀ v, sentField? form "category" = some v → v.TextWithin 1 100

end Videos

section Videos

variable {form : Form} {upload : UploadForm} {change : ChangeForm} {step : String}

theorem passes_upload : (UploadForm.read form).Passes ↔ ReadableUpload form := by
  simp only [UploadForm.read, Checked.passes_seq, Checked.passes_map, passes_sent, passes_sent?]
  constructor
  · rintro ⟨⟨⟨⟨⟨⟨htitle, hcategory⟩, hdescription⟩, hlanguage⟩, hduration⟩, hthumbnail⟩, hcontent⟩
    exact ⟨htitle, hcategory, hdescription, hlanguage, hduration, hthumbnail, hcontent⟩
  · rintro ⟨htitle, hcategory, hdescription, hlanguage, hduration, hthumbnail, hcontent⟩
    exact ⟨⟨⟨⟨⟨⟨htitle, hcategory⟩, hdescription⟩, hlanguage⟩, hduration⟩, hthumbnail⟩, hcontent⟩

theorem passes_change (hstep : (videoIdOf step).Passes) : (ChangeForm.read step form).Passes ↔ ReadableChange form := by
  simp only [ChangeForm.read, Checked.passes_seq, Checked.passes_map, passes_sent?, hstep, true_and]
  constructor
  · rintro ⟨⟨⟨⟨htitle, hdescription⟩, hcategory⟩, hthumbnail⟩, hcontent⟩
    exact ⟨htitle, hdescription, hcategory, hthumbnail, hcontent⟩
  · rintro ⟨htitle, hdescription, hcategory, hthumbnail, hcontent⟩
    exact ⟨⟨⟨⟨htitle, hdescription⟩, hcategory⟩, hthumbnail⟩, hcontent⟩

/-- A text that a form has to hold is within bounds when what is read of it is. -/
theorem textWithin_of_sent {name s : String} {least most : Nat} (h : sent form name formText = .ok s) :
    (∃ v, sentField? form name = some v ∧ v.TextWithin least most) ↔ HasLength least most s := by
  obtain ⟨v, hv, hs⟩ := field_of_sent h
  obtain rfl := formText_eq_ok.mp hs
  simp [hv, FormValue.TextWithin]

theorem textWithin_of_sent? {name : String} {o : Option String} {least most : Nat} (h : sent? form name formText = .ok o) :
    (∀ v, sentField? form name = some v → v.TextWithin least most) ↔ ∀ s, o = some s → HasLength least most s := by
  rcases field_of_sent? h with ⟨hnone, rfl⟩ | ⟨v, s, hv, hs, rfl⟩
  · simp [hnone]
  · obtain rfl := formText_eq_ok.mp hs
    simp [hv, FormValue.TextWithin]

/-- What a form says is within the bounds of a new video when the data that is read of it is. -/
theorem within_of_upload (h : UploadForm.read form = .ok upload) : upload.data.Within ↔ ValidUpload form := by
  obtain ⟨withThumbnail, content, toThumbnail, -, rfl⟩ := seq_eq_ok h
  obtain ⟨withDuration, thumbnail, toDuration, -, rfl⟩ := seq_eq_ok toThumbnail
  obtain ⟨withLanguage, duration, toLanguage, hduration, rfl⟩ := seq_eq_ok toDuration
  obtain ⟨withDescription, language, toDescription, -, rfl⟩ := seq_eq_ok toLanguage
  obtain ⟨withCategory, description, toCategory, -, rfl⟩ := seq_eq_ok toDescription
  obtain ⟨withTitle, category, toTitle, hcategory, rfl⟩ := seq_eq_ok toCategory
  obtain ⟨title, htitle, rfl⟩ := map_eq_ok toTitle
  have hnatural : (∀ v, sentField? form "duration" = some v → ∃ n, formInteger v = .ok n ∧ 0 ≤ n) ↔ 0 ≤ duration.getD 0 := by
    rcases field_of_sent? hduration with ⟨hnone, rfl⟩ | ⟨v, n, hv, hn, rfl⟩
    · simp [hnone]
    · simp [hv, hn]
  constructor
  · rintro ⟨hwithin, hwithin', hleast⟩
    exact ⟨(textWithin_of_sent htitle).mpr hwithin, (textWithin_of_sent hcategory).mpr hwithin', hnatural.mpr hleast⟩
  · rintro ⟨hwithin, hwithin', hleast⟩
    exact ⟨(textWithin_of_sent htitle).mp hwithin, (textWithin_of_sent hcategory).mp hwithin', hnatural.mp hleast⟩

theorem within_of_change (h : ChangeForm.read step form = .ok change) : change.changes.Within ↔ ValidChange form := by
  obtain ⟨withThumbnail, content, toThumbnail, -, rfl⟩ := seq_eq_ok h
  obtain ⟨withCategory, thumbnail, toCategory, -, rfl⟩ := seq_eq_ok toThumbnail
  obtain ⟨withDescription, category, toDescription, hcategory, rfl⟩ := seq_eq_ok toCategory
  obtain ⟨withTitle, description, toTitle, -, rfl⟩ := seq_eq_ok toDescription
  obtain ⟨withId, title, toId, htitle, rfl⟩ := seq_eq_ok toTitle
  obtain ⟨id, -, rfl⟩ := map_eq_ok toId
  constructor
  · rintro ⟨hwithin, hwithin'⟩
    exact ⟨(textWithin_of_sent? htitle).mpr hwithin, (textWithin_of_sent? hcategory).mpr hwithin'⟩
  · rintro ⟨hwithin, hwithin'⟩
    exact ⟨(textWithin_of_sent? htitle).mp hwithin, (textWithin_of_sent? hcategory).mp hwithin'⟩

end Videos

/-! ## Answers -/

/-- A request is refused as the client's error, and changes nothing. -/
def RefusedCleanly (site : Site) (r : Request) (w : World) : Prop :=
  (400 ≤ (respond site r w).1.status ∧ (respond site r w).1.status < 500) ∧ (respond site r w).2 = w

/-- What becomes of a request with invalid metadata, given whether its form can be read: nothing changes, it is refused as the client's
error when the form cannot be read, and is answered like a failure of the site when it can. -/
structure AnswersInvalid (site : Site) (r : Request) (w : World) (readable : Prop) : Prop where
  untouched : (respond site r w).2 = w
  clean : RefusedCleanly site r w ↔ ¬readable
  broken : readable → (respond site r w).1 = .serverError

section Answers

open Service

variable {α : Type} {site : Site} {r : Request} {w : World} {form : Form} {step : String}

/-- Fields that are refused when they are read, and data that is refused later. -/
theorem answersInvalid_of_fields {fields : Checked α} {readable : Prop} (hreadable : fields.Passes ↔ readable)
    (hunread : ∀ errors, fields = .error errors → respond site r w = (.invalid errors, w))
    (hread : ∀ a, fields = .ok a → respond site r w = (.serverError, w)) : AnswersInvalid site r w readable := by
  cases hfields : fields with
  | error errors =>
    have hnot : ¬readable := hreadable.not.mp (Checked.not_passes_iff.mpr ⟨errors, hfields⟩)
    have hrespond := hunread errors hfields
    refine ⟨by rw [hrespond], iff_of_true ?_ hnot, fun h => absurd h hnot⟩
    rw [RefusedCleanly, hrespond]
    simp [Answer.invalid]
  | ok a =>
    have hyes : readable := hreadable.mp ⟨a, hfields⟩
    have hrespond := hread a hfields
    refine ⟨by rw [hrespond], iff_of_false ?_ (not_not_intro hyes), fun _ => by rw [hrespond]⟩
    rw [RefusedCleanly, hrespond]
    simp [Answer.serverError, Answer.plain]

/-- Fields that are wrong are answered with what is wrong with them. -/
theorem answering_withFields_of_error {fields : Checked α} {errors : List FieldError} (h : fields = .error errors)
    (f : α → Service Answer) : answering (withFields fields f) w = (.invalid errors, w) := by
  rw [h]
  rfl

/-- The data of a new video that is not within its bounds is answered like a failure, once the form has been read and the user is
known. -/
theorem answering_createVideo_of_invalid {me : String} {upload : UploadForm} (hform : r.form = .ok form) (hme : r.userId? = some me)
    (hread : UploadForm.read form = .ok upload) (hinvalid : ¬ValidUpload form) :
    answering (createVideoEndpoint site r) w = (.serverError, w) := by
  obtain ⟨errors, hrefused⟩ := Checked.not_passes_iff.mp
    ((passes_newVideo upload.data).not.mpr ((within_of_upload hread).not.mpr hinvalid))
  simp only [createVideoEndpoint, withForm, hform, withFields, hread, asUser, hme, hrefused]
  rfl

/-- Changes that are not within their bounds are answered like a failure, once the form has been read and the owner is known. -/
theorem answering_updateVideo_of_invalid {change : ChangeForm} (hform : r.form = .ok form) (howns : r.Owns w.db step)
    (hread : ChangeForm.read step form = .ok change) (hinvalid : ¬ValidChange form) :
    answering (updateVideoEndpoint site r step) w = (.serverError, w) := by
  obtain ⟨errors, hrefused⟩ := Checked.not_passes_iff.mp
    ((passes_videoChanges change.changes).not.mpr ((within_of_change hread).not.mpr hinvalid))
  obtain ⟨id, v, hid, hv, howner⟩ := howns
  obtain rfl : change.id = id := Except.ok.inj ((id_of_read hread).symm.trans hid)
  simp only [updateVideoEndpoint, withForm, hform, withFields, hread, hrefused, answering]
  -- an id that is too wide is answered like a failure too
  rcases requireOwner_of_owner hv howner with hpassed | hwide
  · rw [bind_of_ok hpassed]
    rfl
  · rw [bind_of_error hwide]
    rfl

end Answers

end Http

/-- Where the metadata of a new video, or of the changes of a video by its owner, is not within its bounds, nothing changes. The request
is refused as the client's error exactly when its form cannot be read, and is answered like a failure of the site otherwise. -/
theorem answers_to_invalid_metadata (site : Http.Site) (r : Http.Request) (form : Http.Form) (a : Http.Arrival) (w : World)
    (hform : r.form = .ok form) (harrival : r.arrival? = some a) :
    (∀ me, a.endpoint = .createVideo → r.userId? = some me → ¬Http.ValidUpload form →
      Http.AnswersInvalid site r w (Http.ReadableUpload form)) ∧
    (a.endpoint = .updateVideo → r.Owns w.db (a.held.getD 0 "") → ¬Http.ValidChange form →
      Http.AnswersInvalid site r w (Http.ReadableChange form)) := by
  have hrespond : Http.respond site r w = _ := Http.respond_eq_answering harrival
  constructor
  · intro me hendpoint hme hinvalid
    rw [hendpoint] at hrespond
    refine Http.answersInvalid_of_fields Http.passes_upload (fun errors herrors => hrespond.trans ?_) fun upload hread =>
      hrespond.trans (Http.answering_createVideo_of_invalid hform hme hread hinvalid)
    rw [Http.serve, Http.createVideoEndpoint, Http.withForm, hform]
    exact Http.answering_withFields_of_error herrors _
  · intro hendpoint howns hinvalid
    rw [hendpoint] at hrespond
    have hstep : (Http.videoIdOf (a.held.getD 0 "")).Passes := by
      obtain ⟨id, -, hid, -⟩ := howns
      exact ⟨id, hid⟩
    refine Http.answersInvalid_of_fields (Http.passes_change hstep) (fun errors herrors => hrespond.trans ?_) fun change hread =>
      hrespond.trans (Http.answering_updateVideo_of_invalid hform howns hread hinvalid)
    rw [Http.serve, Http.updateVideoEndpoint, Http.withForm, hform]
    exact Http.answering_withFields_of_error herrors _

/-! ### A title that is missing, and a category that is too long -/

namespace OutOfBounds

/-- Ann has a video. -/
def world : World where
  db := {
    users := [⟨"ann", "Ann", none, none, "ROLE_USER", 0⟩]
    videos := [⟨1, "ann", "Surf", none, "Sport", "en", 60, 0, 0⟩] }

def site : Http.Site := { settings := {} }

/-- Ann sends a new video without a title. -/
def untitled : Http.Request where
  method := "POST"
  address := "/api/videos"
  headers := [("x-user-id", "ann"), ("content-type", "application/x-www-form-urlencoded")]
  content := "category=Sport"

/-- A category of more characters than a category may have. -/
def longCategory : String := String.ofList (List.replicate 101 'x')

/-- Ann sends another category for her video. -/
def recategorized : Http.Request where
  method := "PUT"
  address := "/api/videos/1"
  headers := [("x-user-id", "ann"), ("content-type", "application/x-www-form-urlencoded")]
  content := "category=" ++ longCategory

/-- What Ann sends. -/
def form : Http.Form := [("category", .text longCategory)]

theorem form_of_recategorized : recategorized.form = .ok form := by
  have htype : (Http.HeaderValue.ofText ((recategorized.header? "content-type").getD "")).value =
      "application/x-www-form-urlencoded" := by decide
  have hother : "application/x-www-form-urlencoded" ≠ "multipart/form-data" := by decide
  have hplain : ∀ c ∈ longCategory.toList, Http.isPlain c = true := by
    have hletters : longCategory.toList = List.replicate 101 'x' := String.toList_ofList
    rw [hletters]
    exact List.forall_mem_replicate.mpr (Or.inr (by decide))
  have hpairs : Http.readBody recategorized.content = [("category", longCategory)] := by
    have hname : "category=" = "category" ++ "=" := by decide
    have hletters : "category".toList.all Http.isPlain = true := by decide
    rw [recategorized, hname]
    exact Http.readBody_of_plain (List.all_eq_true.mp hletters) hplain
  rw [Http.Request.form, htype, if_neg hother, if_pos rfl, hpairs]
  rfl

theorem arrival_of_recategorized :
    recategorized.arrival? = some ⟨.updateVideo, ["1"], Http.readQuery (Http.Target.ofText recategorized.address).query⟩ :=
  Http.arrival_of_lead (by decide) (by decide)

theorem ann_owns : recategorized.Owns world.db "1" :=
  ⟨1, ⟨1, "ann", "Surf", none, "Sport", "en", 60, 0, 0⟩, rfl, by decide, by decide⟩

theorem not_validChange : ¬Http.ValidChange form := by
  intro hvalid
  have hsent : Http.sentField? form "category" = some (.text longCategory) := by decide
  obtain ⟨s, hs, hlength⟩ := hvalid.category _ hsent
  cases hs
  revert hlength
  decide

theorem read_form : Http.ChangeForm.read "1" form = .ok ⟨1, ⟨none, none, some longCategory⟩, none, none⟩ := by rfl

/-- The video without a title is refused as Ann's error, and the category that is too long is answered like a failure of the site. -/
theorem missing_and_too_long :
    Http.RefusedCleanly site untitled world ∧ Http.respond site recategorized world = (.serverError, world) := by
  constructor
  · have hform : untitled.form = .ok [("category", .text "Sport")] := by decide
    have hnone : Http.sentField? [("category", .text "Sport")] "title" = none := rfl
    have harrival : untitled.arrival? = some ⟨.createVideo, [], Http.readQuery (Http.Target.ofText untitled.address).query⟩ :=
      Http.arrival_of_lead (by decide) (by decide)
    have hinvalid : ¬Http.ValidUpload [("category", .text "Sport")] := by
      intro hvalid
      obtain ⟨v, hv, -⟩ := hvalid.title
      rw [hnone] at hv
      cases hv
    have hanswers := (answers_to_invalid_metadata site untitled _ _ world hform harrival).1 "ann" rfl (by decide) hinvalid
    refine hanswers.clean.mpr fun hreadable => ?_
    obtain ⟨v, hv, -⟩ := hreadable.title
    rw [hnone] at hv
    cases hv
  · have hanswers := (answers_to_invalid_metadata site recategorized form _ world form_of_recategorized arrival_of_recategorized).2
      rfl ann_owns not_validChange
    have hstep : Http.videoIdOf "1" = .ok 1 := rfl
    exact Prod.ext (hanswers.broken ((Http.passes_change ⟨1, hstep⟩).mp ⟨_, read_form⟩)) hanswers.untouched

/-- The category that is too long is not refused as Ann's error. -/
theorem not_refusedCleanly :
    recategorized.form = .ok form ∧ recategorized.ArrivesAt .updateVideo ∧ recategorized.Owns world.db "1" ∧
      ¬Http.ValidChange form ∧ (Http.respond site recategorized world).1.status = 500 ∧
        ¬Http.RefusedCleanly site recategorized world := by
  have hrespond : Http.respond site recategorized world = (.serverError, world) :=
    (Http.respond_eq_answering arrival_of_recategorized).trans
      (Http.answering_updateVideo_of_invalid form_of_recategorized ann_owns read_form not_validChange)
  refine ⟨form_of_recategorized, ⟨_, arrival_of_recategorized, rfl⟩, ann_owns, not_validChange, by rw [hrespond]; rfl, ?_⟩
  rw [Http.RefusedCleanly, hrespond]
  simp [Http.Answer.serverError, Http.Answer.plain]

end OutOfBounds

end VideoShare
