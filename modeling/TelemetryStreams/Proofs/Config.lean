import TelemetryStreams.Config
import TelemetryStreams.Proofs.Duration.Human
import TelemetryStreams.Proofs.Json.Reader

/-!
# Configurations read back

A configuration is written as an object of all three fields, so whatever is read back from it needs no
defaults (`text_round_trips`). Each field is read by one round of the reader of objects
(`readFields_field`); the texts in it have no characters that JSON escapes.
-/
namespace TelemetryStreams.Config

open Json.Reader

variable {given read : Given} {rest : List Char}

/-- What is written, character by character where the reader looks at single characters. -/
theorem toList_render (config : Config) :
    config.render.toList =
      '\x7b' :: '"' :: ("num_streams".toList ++ '"' :: ':' ::
        ((toString config.streams.toNat).toList ++ ',' :: '"' :: ("max_stream_lifetime".toList ++
          '"' :: ':' :: '"' :: ((Human.render config.maxStreamLifetime).toList ++
            '"' :: ',' :: '"' :: ("detailed_metrics".toList ++ '"' :: ':' ::
              ((if config.detailedMetrics then "true" else "false").toList ++ ['\x7d'])))))) := by
  have first : "\x7b\"num_streams\":".toList = '\x7b' :: '"' :: ("num_streams".toList ++ ['"', ':']) :=
    rfl
  have second : ",\"max_stream_lifetime\":\"".toList =
      ',' :: '"' :: ("max_stream_lifetime".toList ++ ['"', ':', '"']) := rfl
  have third : "\",\"detailed_metrics\":".toList =
      '"' :: ',' :: '"' :: ("detailed_metrics".toList ++ ['"', ':']) := rfl
  have last : "\x7d".toList = ['\x7d'] := rfl
  unfold render
  simp only [String.toList_append, first, second, third, last, List.append_assoc, List.cons_append,
    List.nil_append]

theorem isPlain_render (d : Duration) : (Human.render d).toList.all isPlain = true := by
  refine List.all_eq_true.mpr fun c mem => ?_
  rw [Human.render_eq, Human.toList_intercalate_text] at mem
  rcases Human.mem_texts mem with digit | letter | rfl
  · obtain ⟨low, high⟩ := Char.isDigit_iff_toNat.mp digit
    refine isPlain_iff.mpr ⟨?_, ?_, Nat.le_trans (by decide) low⟩
    · rintro rfl
      cases digit
    · rintro rfl
      cases digit
  · refine isPlain_iff.mpr ⟨?_, ?_, ?_⟩
    · rintro rfl
      cases letter
    · rintro rfl
      cases letter
    · simp only [Human.isLetter, Bool.or_eq_true, Bool.and_eq_true, decide_eq_true_eq,
        beq_iff_eq] at letter
      rcases letter with (⟨low, -⟩ | ⟨low, -⟩) | rfl
      · exact Nat.le_trans (by decide) low
      · exact Nat.le_trans (by decide) low
      · decide
  · rfl

/-! ### Fields -/

theorem readField_streams (absent : given.streams = none) (streams : UInt64) (rest : List Char) :
    readField given "num_streams" (':' :: ((toString streams.toNat).toList ++ ',' :: rest)) =
      .ok ({ given with streams := some streams }, ',' :: rest) := by
  have value := natural_toString streams.toNat_lt "usize" rest
  rw [UInt64.ofNat_toNat] at value
  unfold readField
  simp only [if_true, absent, Option.isSome_none, Bool.false_eq_true, if_false]
  rw [bind_of_reads (colon_cons _), readStreams, bind_of_reads value]
  rfl

theorem readField_lifetime (absent : given.lifetime = none) (lifetime : Duration) (rest : List Char) :
    readField given "max_stream_lifetime" (':' :: '"' :: ((Human.render lifetime).toList ++ '"' :: rest)) =
      .ok ({ given with lifetime := some lifetime }, rest) := by
  have read : readLifetime ('"' :: ((Human.render lifetime).toList ++ '"' :: rest)) =
      .ok (lifetime, rest) := by
    unfold readLifetime
    rw [bind_of_reads (text_plain (isPlain_render lifetime) "a duration" rest), String.ofList_toList,
      Human.read_render]
    rfl
  unfold readField
  rw [if_neg (by decide)]
  simp only [if_true, absent, Option.isSome_none, Bool.false_eq_true, if_false]
  rw [bind_of_reads (colon_cons _), bind_of_reads read]
  rfl

theorem readField_detailed (absent : given.detailed = none) (detailed : Bool) (rest : List Char) :
    readField given "detailed_metrics" (':' :: ((if detailed then "true" else "false").toList ++ rest)) =
      .ok ({ given with detailed := some detailed }, rest) := by
  have read : boolean ((if detailed then "true" else "false").toList ++ rest) = .ok (detailed, rest) := by
    cases detailed with
    | true => exact boolean_true rest
    | false => exact boolean_false rest
  unfold readField
  rw [if_neg (by decide), if_neg (by decide)]
  simp only [if_true, absent, Option.isSome_none, Bool.false_eq_true, if_false]
  rw [bind_of_reads (colon_cons _), bind_of_reads read]
  rfl

/-- A field is read in one round. -/
theorem readFields_field {first : Bool} {fuel : Nat} {name : String} {text behind : List Char}
    (another : anotherField first text = .ok (true, '"' :: (name.toList ++ '"' :: behind)))
    (arePlain : name.toList.all isPlain = true) (reads : readField given name behind = .ok (read, rest)) :
    readFields (fuel + 1) first given text = readFields fuel false read rest := by
  have named := text_plain arePlain "variant identifier" behind
  rw [String.ofList_toList] at named
  rw [readFields, bind_of_reads another, if_pos rfl]
  unfold Json.Reader.name
  rw [bind_of_reads named, bind_of_reads reads]

/-- The first field stands behind the brace. -/
theorem anotherField_first (rest : List Char) :
    anotherField true ('"' :: rest) = .ok (true, '"' :: rest) := rfl

theorem anotherField_next (rest : List Char) :
    anotherField false (',' :: '"' :: rest) = .ok (true, '"' :: rest) := rfl

theorem readFields_end (fuel : Nat) (given : Given) :
    readFields (fuel + 1) false given ['\x7d'] = .ok (given, []) := rfl

theorem reader_render (streams : UInt64) (lifetime : Duration) (detailed : Bool) :
    reader (render ⟨streams, lifetime, detailed⟩).toList =
      .ok (⟨some streams, some lifetime, some detailed⟩, []) := by
  rw [toList_render]
  unfold reader
  rw [bind_of_reads (front_cons rfl)]
  calc
    _ = readFields 5 true {} ('"' :: _) := rfl
    _ = readFields 4 false ⟨some streams, none, none⟩ (',' :: '"' :: _) :=
      readFields_field (anotherField_first _) rfl (readField_streams rfl streams _)
    _ = readFields 3 false ⟨some streams, some lifetime, none⟩ (',' :: '"' :: _) :=
      readFields_field (anotherField_next _) rfl (readField_lifetime rfl lifetime _)
    _ = readFields 2 false ⟨some streams, some lifetime, some detailed⟩ ['\x7d'] :=
      readFields_field (anotherField_next _) rfl (readField_detailed rfl detailed _)
    _ = .ok (⟨some streams, some lifetime, some detailed⟩, []) := readFields_end 1 _

/-- The text of a configuration is read without a fault, and whatever the defaults are, what is read
is the configuration. -/
theorem text_round_trips (config : Config) :
    ∃ given, parse config.render = .ok given ∧ ∀ defaults, given.withDefaults defaults = config := by
  obtain ⟨streams, lifetime, detailed⟩ := config
  refine ⟨⟨some streams, some lifetime, some detailed⟩, ?_, fun _ => rfl⟩
  unfold parse whole
  rw [StateT.run, reader_render]
  rfl

end TelemetryStreams.Config
