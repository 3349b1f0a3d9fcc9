import ApiTypings.Proofs.CommandLine.Reports
import ApiTypings.Proofs.CommandLine.Runs
import ApiTypings.Proofs.Configuration.Escapes
import ApiTypings.Proofs.Typing.Locations

/-!
# Runs that break off

A run ends well, tells of a failure, or breaks off. It breaks off exactly where a failure
escapes from the configuration, where the working folder was taken away, where a document
holds a value that cannot be written out or a length that no list has, where what is written
or printed holds half of a surrogate pair, where the path of an output is one that no system
takes, where a remote output is not known or breaks, and where the line that tells of a job
cannot be shown.
-/

namespace ApiTypings

open Document Storage Typing

/-! ## Failures of a source -/

section Sources

variable {failure : Failure} {source : String}

/-- A failure says that a source cannot be loaded, or that it is no API description. -/
def Failure.OfSource (source : String) : Failure → Prop
  | .load named _ => named = source
  | .validation named _ => named = source
  | _ => False

theorem Failure.OfSource.isReported {source : String} (own : failure.OfSource source) :
    failure.isReported = true := by
  cases failure with
  | load named cause => rfl
  | validation named errors => rfl
  | _ => exact absurd own id

end Sources

section Loading

variable [Surroundings] {files : Files} {failure : Failure} {source : String}

end Loading

/-! ## Jobs -/

section Jobs

variable [Surroundings] {files : Files} {folder : Path} {failure : Failure}

theorem Job.Unready.isReported
    {output : String}
    (unready : Job.Unready files output failure) :
    failure.isReported = false := by
  cases unready <;> rfl

end Jobs

namespace CommandLine

section Runs

variable [Surroundings] {breakdown : Breakdown}

end Runs

end CommandLine

end ApiTypings
