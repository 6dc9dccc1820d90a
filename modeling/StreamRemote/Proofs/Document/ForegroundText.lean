import StreamRemote.Document.ActiveApp
import StreamRemote.Document.PlayerStatus
import StreamRemote.Proofs.Document.AppListText

/-!
# Writing what a device shows

The app in the foreground and the player are written as records, each by a layout of its own: the
apps and the parts of a player status are records inside them. Both documents are read back as they
were, whatever the order of attributes and elements is and whatever stands between the elements.

An attribute and an element with nothing in them are not the same as none: the value that they give
is the empty string.

Results:
1. `ActiveApp.parse_of_documentText`, `PlayerStatus.parse_of_documentText`: what is written is read
   back.
2. `ActiveApp.exists_documentText`, `PlayerStatus.exists_documentText`: each value can be written.
3. `Document.parse_of_foregroundText`: both, with what is told by the values that are read.
-/

namespace StreamRemote

open Xml

namespace Document

/-- The text is a body with the record as its root. -/
def RecordBody {F : Type} {schema : Schema F} (layout : Layout schema) (root : String)
    (value : schema.Draft) (body : List Char) : Prop :=
  ∃ tail inside, layout.RecordText value tail inside ∧ BodyText ⟨root.toList, tail⟩ inside body

variable {F : Type} {schema : Schema F} {layout : Layout schema} {value : schema.Draft}

/-- Each record can be written as the root of a body. -/
theorem exists_recordBody (quotable : layout.Quotable)
    (each : ∀ f v, ¬ schema.InAttribute f → ∃ tail inside, layout.element f v tail inside)
    (root : String) (value : schema.Draft) : ∃ body, RecordBody layout root value body := by
  obtain ⟨tail, inside, record⟩ := quotable.exists_recordText each value
  exact ⟨_, tail, inside, record, .bare (.item (.full inside) .done)⟩

/-- A body with a record as its root is read as what the values of the record make up. -/
theorem parse_of_recordBody [DecidableEq F] {α : Type} [Document α] {a : α} {body : String}
    (sound : layout.Sound) (plain : PlainName (Document.root α).toList)
    (made : ∀ tag inner, schema.readElement tag inner = .ok value →
      Document.read tag inner = .ok a)
    (h : RecordBody layout (Document.root α) value body.toList) : parse α body = .ok a := by
  obtain ⟨tail, inside, record, text⟩ := h
  obtain ⟨tagged, inner, spelled, read⟩ := record.readsAs sound plain
  rw [parse_of_bodyText text tagged spelled rfl, made _ _ read]
  rfl

end Document

/-! ## The app in the foreground -/

namespace ActiveApp

/-- The value that is shown for a field. -/
def value (active : ActiveApp) : schema.Draft
  | .app => some active.app
  | .screensaver => active.screensaver

/-- How the values are written: each is an app inside the root. -/
def layout : Layout schema where
  quoted _ _ _ := False
  element _ := App.PartsText

theorem schema_lawful : schema.Lawful where
  mem f := by cases f <;> decide
  once := by decide
  declaration := by decide

theorem layout_sound : layout.Sound where
  lawful := schema_lawful
  quoted := False.elim
  element {f _ _ _} form := by
    have plain : PlainName (schema.key f).toList := by
      cases f <;> exact ⟨by decide, by decide⟩
    exact App.PartsText.readsAs form plain

/-- No value stands in an attribute. -/
theorem layout_quotable : layout.Quotable where
  lawful := schema_lawful
  name f attributed := by cases f <;> contradiction
  quoted f _ attributed := by cases f <;> contradiction

/-- The text is a document with the apps that are shown. -/
def DocumentText (active : ActiveApp) (body : List Char) : Prop :=
  Document.RecordBody layout (Document.root ActiveApp) active.value body

/-- Whatever is shown can be written. -/
theorem exists_documentText (active : ActiveApp) : ∃ s, active.DocumentText s :=
  Document.exists_recordBody layout_quotable (fun _ app _ => App.exists_partsText app) _ _

/-- What is shown and written is read back as it was. -/
theorem parse_of_documentText {active : ActiveApp} {body : String}
    (h : active.DocumentText body.toList) : Document.parse ActiveApp body = .ok active := by
  have plain : PlainName (Document.root ActiveApp).toList := ⟨by decide, by decide⟩
  refine Document.parse_of_recordBody layout_sound plain (fun tag inner read => ?_) h
  show (schema.readElement tag inner >>= ofDraft) = _
  rw [read]
  rfl

end ActiveApp

/-! ## The parts of a player status -/

namespace Plugin

/-- The value that a plugin has for a field. -/
def value (plugin : Plugin) : schema.Draft
  | .id => plugin.id
  | .name => plugin.name
  | .bandwidth => plugin.bandwidth

/-- How the values of a plugin are written. -/
def layout : Layout schema :=
  .uniform schema.fields schema.key .text

theorem schema_lawful : schema.Lawful where
  mem f := by cases f <;> decide
  once := by decide
  declaration := by decide

theorem layout_sound : layout.Sound :=
  Layout.uniform_sound schema_lawful

theorem layout_quotable : layout.Quotable :=
  Layout.uniform_quotable schema_lawful fun f _ => by
    cases f <;> exact ⟨by decide, by decide⟩

theorem readsAs {plugin : Plugin} {tail inside name : List Char}
    (h : layout.RecordText plugin.value tail inside) (plain : PlainName name) :
    ReadsAs ⟨name, tail⟩ inside read plugin :=
  (h.readsAs layout_sound plain).imp fun inner same => by
    rw [read, same]
    rfl

theorem exists_recordText (plugin : Plugin) :
    ∃ tail inside, layout.RecordText plugin.value tail inside := by
  refine layout_quotable.exists_recordText (fun f _ other => absurd ?_ other) _
  cases f <;> decide

end Plugin

namespace MediaFormat

/-- The value that a format has for a field. -/
def value (format : MediaFormat) : schema.Draft
  | .audio => format.audio
  | .video => format.video
  | .captions => format.captions
  | .drm => format.drm

/-- How the values of a format are written. -/
def layout : Layout schema :=
  .uniform schema.fields schema.key .text

theorem schema_lawful : schema.Lawful where
  mem f := by cases f <;> decide
  once := by decide
  declaration := by decide

theorem layout_sound : layout.Sound :=
  Layout.uniform_sound schema_lawful

theorem layout_quotable : layout.Quotable :=
  Layout.uniform_quotable schema_lawful fun f _ => by
    cases f <;> exact ⟨by decide, by decide⟩

theorem readsAs {format : MediaFormat} {tail inside name : List Char}
    (h : layout.RecordText format.value tail inside) (plain : PlainName name) :
    ReadsAs ⟨name, tail⟩ inside read format :=
  (h.readsAs layout_sound plain).imp fun inner same => by
    rw [read, same]
    rfl

theorem exists_recordText (format : MediaFormat) :
    ∃ tail inside, layout.RecordText format.value tail inside := by
  refine layout_quotable.exists_recordText (fun f _ other => absurd ?_ other) _
  cases f <;> decide

end MediaFormat

namespace Buffering

/-- The value that a buffering state has for a field. -/
def value (buffering : Buffering) : schema.Draft
  | .current => buffering.current
  | .max => buffering.max
  | .target => buffering.target

/-- How the values of a buffering state are written. -/
def layout : Layout schema :=
  .uniform schema.fields schema.key .count

theorem schema_lawful : schema.Lawful where
  mem f := by cases f <;> decide
  once := by decide
  declaration := by decide

theorem layout_sound : layout.Sound :=
  Layout.uniform_sound schema_lawful

theorem layout_quotable : layout.Quotable :=
  Layout.uniform_quotable schema_lawful fun f _ => by
    cases f <;> exact ⟨by decide, by decide⟩

theorem readsAs {buffering : Buffering} {tail inside name : List Char}
    (h : layout.RecordText buffering.value tail inside) (plain : PlainName name) :
    ReadsAs ⟨name, tail⟩ inside read buffering :=
  (h.readsAs layout_sound plain).imp fun inner same => by
    rw [read, same]
    rfl

theorem exists_recordText (buffering : Buffering) :
    ∃ tail inside, layout.RecordText buffering.value tail inside := by
  refine layout_quotable.exists_recordText (fun f _ other => absurd ?_ other) _
  cases f <;> decide

end Buffering

/-! ## The player -/

namespace PlayerStatus

/-- The value that a player status has for a field. -/
def value (status : PlayerStatus) : schema.Draft
  | .state => some status.state
  | .error => status.error
  | .plugin => status.plugin
  | .format => status.format
  | .buffering => status.buffering
  | .position => status.position
  | .duration => status.duration
  | .runtime => status.runtime
  | .isLive => status.isLive

/-- How the values are written: the state and the error in attributes of the root, the parts as
records inside it, and the others as the text of an element. -/
def layout : Layout schema where
  quoted
    | .state => Kind.WrittenInQuotes .text
    | .error => Kind.WrittenInQuotes .flag
    | _ => fun _ _ => False
  element
    | .state | .error => fun _ _ _ => False
    | .plugin => fun plugin => Plugin.layout.RecordText (Plugin.value plugin)
    | .format => fun format => MediaFormat.layout.RecordText (MediaFormat.value format)
    | .buffering => fun buffering => Buffering.layout.RecordText (Buffering.value buffering)
    | .position | .duration | .runtime => Kind.LeafText .text
    | .isLive => Kind.LeafText .flag

theorem schema_lawful : schema.Lawful where
  mem f := by cases f <;> decide
  once := by decide
  declaration := by decide

theorem layout_sound : layout.Sound where
  lawful := schema_lawful
  quoted {f _ _} form := by
    cases f with
    | state => exact @Kind.read_of_writtenInQuotes .text _ _ form
    | error => exact @Kind.read_of_writtenInQuotes .flag _ _ form
    | _ => exact form.elim
  element {f _ _ _} form := by
    cases f with
    | state | error => exact form.elim
    | plugin => exact Plugin.readsAs form ⟨by decide, by decide⟩
    | format => exact MediaFormat.readsAs form ⟨by decide, by decide⟩
    | buffering => exact Buffering.readsAs form ⟨by decide, by decide⟩
    | position | duration | runtime | isLive => exact form.readsAs ⟨by decide, by decide⟩

theorem layout_quotable : layout.Quotable where
  lawful := schema_lawful
  name f attributed := by
    cases f with
    | state | error => exact ⟨by decide, by decide⟩
    | _ => contradiction
  quoted f v attributed := by
    cases f with
    | state => exact @Kind.exists_writtenInQuotes .text v
    | error => exact @Kind.exists_writtenInQuotes .flag v
    | _ => contradiction

/-- The text is a document with the player status. -/
def DocumentText (status : PlayerStatus) (body : List Char) : Prop :=
  Document.RecordBody layout (Document.root PlayerStatus) status.value body

/-- Each player status can be written. -/
theorem exists_documentText (status : PlayerStatus) : ∃ s, status.DocumentText s := by
  refine Document.exists_recordBody layout_quotable (fun f v other => ?_) _ _
  cases f with
  | state | error => contradiction
  | plugin => exact Plugin.exists_recordText v
  | format => exact MediaFormat.exists_recordText v
  | buffering => exact Buffering.exists_recordText v
  | position | duration | runtime => exact @Kind.exists_leafText .text v
  | isLive => exact @Kind.exists_leafText .flag v

/-- A player status that is written is read back as it was. -/
theorem parse_of_documentText {status : PlayerStatus} {body : String}
    (h : status.DocumentText body.toList) : Document.parse PlayerStatus body = .ok status := by
  have plain : PlainName (Document.root PlayerStatus).toList := ⟨by decide, by decide⟩
  refine Document.parse_of_recordBody layout_sound plain (fun tag inner read => ?_) h
  show (schema.readElement tag inner >>= ofDraft) = _
  rw [read]
  rfl

end PlayerStatus

/-! ## Two documents -/

namespace ForegroundLemmas

/-- The home screen. -/
def home : App :=
  ⟨none, none, none, "Roku"⟩

/-- A screensaver with a quote in its id. -/
def screensaver : App :=
  ⟨some "5\"", some "ssvr", none, "A b"⟩

/-- A plugin with an empty name. -/
def plugin : Plugin :=
  ⟨some "12", some "", none⟩

def buffering : Buffering :=
  ⟨none, some 10, none⟩

/-- A player with two of its parts, a time and an empty one. -/
def playing : PlayerStatus :=
  ⟨"play", some false, some plugin, none, some buffering, some "2549 ms", some "", none, some true⟩

theorem partsText_home : home.PartsText [] "Roku".toList := by
  refine ⟨.tail List.nodup_nil (fun f => ?_) .nil (.done rfl), ?_⟩
  · cases f <;> decide
  · exact .escaped (t := "Roku".toList) (escaped_self (by decide)) .done

theorem partsText_screensaver :
    screensaver.PartsText " type=\"ssvr\" id=\"5&quot;\"".toList "A&#32;b".toList := by
  have type : App.layout.AttributeOf screensaver.value .kind ⟨"type".toList, "ssvr".toList⟩ :=
    ⟨rfl, "ssvr", rfl, escaped_self (by decide)⟩
  have id : App.layout.AttributeOf screensaver.value .id ⟨"id".toList, "5&quot;".toList⟩ :=
    ⟨rfl, "5\"", rfl, .plain rfl rfl (.entity .quotation .nil)⟩
  refine ⟨.tail (by decide) (fun f => ?_) (.cons type (.cons id .nil))
    (.blank ⟨by decide, by decide⟩ (by decide)
      (.blank ⟨by decide, by decide⟩ (by decide) (.done rfl))), ?_⟩
  · cases f <;> decide
  · exact .escaped (t := "A b".toList) (w := "A&#32;b".toList)
      (.plain rfl rfl (.entity reference_space (.plain rfl rfl .nil))) .done

/-- The screensaver stands in front of the home screen, behind a line feed. -/
theorem documentText_home :
    ActiveApp.DocumentText ⟨home, some screensaver⟩
      ("<active-app >\n<screensaver type=\"ssvr\" id=\"5&quot;\">A&#32;b" ++
        "</screensaver><app>Roku</app></active-app>").toList := by
  have tail : ActiveApp.layout.TailText (ActiveApp.value ⟨home, some screensaver⟩) [' '] := by
    refine .tail List.nodup_nil (fun f => ?_) .nil (.done rfl)
    cases f <;> decide
  have row : RowText (ActiveApp.layout.ItemText (ActiveApp.value ⟨home, some screensaver⟩)) _ _ :=
    .space (c := '\n') rfl <|
    .item (.field (f := .screensaver) rfl partsText_screensaver (.full _)) <|
    .item (.field (f := .app) rfl partsText_home (.full _)) .done
  have record := Layout.RecordText.record tail row (by decide) fun f => by cases f <;> decide
  have text : ActiveApp.DocumentText _ _ := ⟨_, _, record, .bare (.item (.full _) .done)⟩
  refine (congrArg (ActiveApp.DocumentText _) ?_).mp text
  decide +kernel

theorem recordText_plugin :
    Plugin.layout.RecordText plugin.value " name=\"\" id=\"12\"".toList [] := by
  have name : Plugin.layout.AttributeOf plugin.value .name ⟨"name".toList, []⟩ :=
    ⟨rfl, "", rfl, .nil⟩
  have id : Plugin.layout.AttributeOf plugin.value .id ⟨"id".toList, "12".toList⟩ :=
    ⟨rfl, "12", rfl, escaped_self (by decide)⟩
  refine .of_tailText (.tail (by decide) (fun f => ?_) (.cons name (.cons id .nil))
    (.blank ⟨by decide, by decide⟩ (by decide)
      (.blank ⟨by decide, by decide⟩ (by decide) (.done rfl)))) fun f => ?_
  · cases f <;> decide
  · cases f <;> decide

theorem recordText_buffering :
    Buffering.layout.RecordText buffering.value " max=\"010\"".toList [] := by
  have max : Buffering.layout.AttributeOf buffering.value .max ⟨"max".toList, "010".toList⟩ :=
    ⟨rfl, (10 : UInt64), rfl, rfl⟩
  refine .of_tailText (.tail (by decide) (fun f => ?_) (.cons max .nil)
    (.blank ⟨by decide, by decide⟩ (by decide) (.done rfl))) fun f => ?_
  · cases f <;> decide
  · cases f <;> decide

theorem tailText_playing :
    PlayerStatus.layout.TailText playing.value " error=\"false\" state=\"play\"".toList := by
  have error : PlayerStatus.layout.AttributeOf playing.value .error
      ⟨"error".toList, "false".toList⟩ := ⟨rfl, false, rfl, rfl⟩
  have state : PlayerStatus.layout.AttributeOf playing.value .state
      ⟨"state".toList, "play".toList⟩ := ⟨rfl, "play", rfl, escaped_self (by decide)⟩
  refine .tail (by decide) (fun f => ?_) (.cons error (.cons state .nil))
    (.blank ⟨by decide, by decide⟩ (by decide)
      (.blank ⟨by decide, by decide⟩ (by decide) (.done rfl)))
  cases f <;> decide

/-- An element of another name, with an attribute and nothing inside. -/
theorem itemText_foreign :
    PlayerStatus.layout.ItemText playing.value none "<new_stream speed=\"1 bps\"/>".toList := by
  have speed : AttributesText [⟨"speed".toList, "1 bps".toList⟩] " speed=\"1 bps\"".toList :=
    .blank ⟨by decide, by decide⟩ (by decide) (.done rfl)
  have name : PlainName "new_stream".toList := ⟨by decide, by decide⟩
  refine .foreign name (fun f => ?_) speed .nil .single
  cases f <;> decide

/-- The values stand in the elements in any order, with other things between them. -/
theorem documentText_playing :
    playing.DocumentText
      ("<?xml version=\"1.0\" ?>\n<player error=\"false\" state=\"play\">" ++
        "<new_stream speed=\"1 bps\"/><position>2549&#32;ms</position><!-- a -->" ++
        "<plugin name=\"\" id=\"12\"/><buffering max=\"010\"/>\n<duration/>" ++
        "<is_live> true </is_live></player>").toList := by
  have digits : Escaped isSpace "2549".toList "2549".toList := escaped_self (by decide)
  have position : Kind.LeafText .text "2549 ms" [] "2549&#32;ms".toList :=
    .leaf (p := []) (s := "2549&#32;ms".toList) (q := []) rfl rfl
      (digits.append (.entity reference_space (.plain rfl rfl (.plain rfl rfl .nil)))) rfl
  have duration : Kind.LeafText .text "" [] [] :=
    .leaf (p := []) (s := []) (q := []) rfl rfl .nil rfl
  have isLive : Kind.LeafText .flag true [] " true ".toList :=
    .leaf (p := [' ']) (s := "true".toList) (q := [' ']) rfl rfl rfl rfl
  have comment : ¬ ['-', '-', '>'] <:+: " a ".toList := by decide
  have row : RowText (PlayerStatus.layout.ItemText playing.value) _ _ :=
    .item itemText_foreign <|
    .item (.field (f := PlayerStatus.Field.position) rfl position (.full _)) <|
    .comment comment <|
    .item (.field (f := PlayerStatus.Field.plugin) rfl recordText_plugin .single) <|
    .item (.field (f := PlayerStatus.Field.buffering) rfl recordText_buffering .single) <|
    .space (c := '\n') rfl <|
    .item (.field (f := PlayerStatus.Field.duration) rfl duration .single) <|
    .item (.field (f := PlayerStatus.Field.isLive) rfl isLive (.full _)) .done
  have record := Layout.RecordText.record tailText_playing row (by decide) fun f => by
    cases f <;> decide
  have text : playing.DocumentText (instructionText "xml version=\"1.0\" ".toList ++ _) :=
    ⟨_, _, record, .declared (by decide) (by decide)
      (.space (c := '\n') rfl (.item (.full _) .done))⟩
  refine (congrArg playing.DocumentText ?_).mp text
  decide +kernel

end ForegroundLemmas

namespace Document

open ForegroundLemmas

/-- What a device shows and what its player does are read back as they were written: so the home
screen is what an app without an id is taken for, and the times are those that the written texts
tell. -/
theorem parse_of_foregroundText :
    (∀ (active : ActiveApp) (body : String), active.DocumentText body.toList →
      parse ActiveApp body = .ok active ∧
        (parse ActiveApp body).map ActiveApp.isHome = .ok active.app.id.isNone) ∧
    ∀ (status : PlayerStatus) (body : String), status.DocumentText body.toList →
      parse PlayerStatus body = .ok status ∧
        (parse PlayerStatus body).map PlayerStatus.positionMillis =
          .ok (status.position.bind Millis.parse?) ∧
        (parse PlayerStatus body).map PlayerStatus.durationMillis =
          .ok (status.duration.bind Millis.parse?) ∧
        (parse PlayerStatus body).map PlayerStatus.runtimeMillis =
          .ok (status.runtime.bind Millis.parse?) := by
  constructor
  · intro active body text
    rw [ActiveApp.parse_of_documentText text]
    exact ⟨rfl, rfl⟩
  · intro status body text
    rw [PlayerStatus.parse_of_documentText text]
    exact ⟨rfl, rfl, rfl, rfl⟩

/-- The home screen behind a screensaver; and a player with two of its parts, a time and an empty
one, with elements of other names and a comment between them. -/
theorem parse_of_foregroundText_two :
    (∃ body, body = "<active-app >\n<screensaver type=\"ssvr\" id=\"5&quot;\">A&#32;b" ++
        "</screensaver><app>Roku</app></active-app>" ∧
      parse ActiveApp body =
        .ok ⟨⟨none, none, none, "Roku"⟩, some ⟨some "5\"", some "ssvr", none, "A b"⟩⟩ ∧
      (parse ActiveApp body).map ActiveApp.isHome = .ok true) ∧
    ∃ body, body = "<?xml version=\"1.0\" ?>\n<player error=\"false\" state=\"play\">" ++
        "<new_stream speed=\"1 bps\"/><position>2549&#32;ms</position><!-- a -->" ++
        "<plugin name=\"\" id=\"12\"/><buffering max=\"010\"/>\n<duration/>" ++
        "<is_live> true </is_live></player>" ∧
      parse PlayerStatus body =
        .ok ⟨"play", some false, some ⟨some "12", some "", none⟩, none,
          some ⟨none, some 10, none⟩, some "2549 ms", some "", none, some true⟩ ∧
      (parse PlayerStatus body).map PlayerStatus.positionMillis = .ok (some 2549) := by
  obtain ⟨parsed, position, -⟩ := parse_of_foregroundText.2 _ _ documentText_playing
  exact ⟨⟨_, rfl, parse_of_foregroundText.1 _ _ documentText_home⟩, _, rfl, parsed, position⟩

end Document

end StreamRemote
