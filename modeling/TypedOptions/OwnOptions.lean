import TypedOptions.Converter.Files
import TypedOptions.Declaration.Basic

/-!
# Options of configurations themselves

Where files are placed and whether used options are reported is set by
options as well.  They are allowed in secure mode.
-/

namespace TypedOptions

namespace FileOptions

def outputPathOption : OptionDeclaration FileOptions :=
  { OptionDeclaration.ofField "output_path" (.element .string) outputPath
      (fun value options => { options with outputPath := value }) with
    name? := some "output.path"
    isSecure := true
    description := "directory to put all output files in" }

def outputDisabledOption : OptionDeclaration FileOptions :=
  { OptionDeclaration.ofField "output_disabled" (.element .bool) outputDisabled
      (fun value options => { options with outputDisabled := value }) with
    name? := some "output.disable"
    isSecure := true
    description := "disable all default output files" }

def rootDirectoryOption : OptionDeclaration FileOptions :=
  { OptionDeclaration.ofField "root_directory" (.element .string) rootDirectory
      (fun value options => { options with rootDirectory := value }) with
    name? := some "rootDirectory"
    isSecure := true
    description := "base directory for all relative paths" }

def declaration : Declaration FileOptions where
  scope := ""
  deprecatedScope? := none
  description := "File handling"
  options := [outputPathOption, outputDisabledOption, rootDirectoryOption]

end FileOptions

structure ReportOptions where
  exportsUsed : Bool
  deriving DecidableEq, Repr

namespace ReportOptions

def default : ReportOptions :=
  ⟨false⟩

def exportOption : OptionDeclaration ReportOptions :=
  { OptionDeclaration.ofField "export_used_options" (.element .bool) exportsUsed
      (fun value _ => ⟨value⟩) with
    name? := some "export"
    isSecure := true
    description := "all used options are printed" }

def declaration : Declaration ReportOptions where
  scope := "log.usedOptions"
  deprecatedScope? := none
  description := ""
  options := [exportOption]

end ReportOptions

end TypedOptions
