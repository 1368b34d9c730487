import ContentTypes.Configuration
import ContentTypes.Decode.Decoder

/-!
The decoders of options and settings.
-/

namespace ContentTypes.Decoder

def buildOptionsShape : Shape BuildOptions where
  name := "BuilderOptions"
  slots := [.needed "naming" naming fun o n => { o with naming := n }]
  initial := {}

def buildOptions : Decoder BuildOptions := buildOptionsShape.decoder

def indentShape : Shape Indent where
  name := "Indent"
  slots := [
    .optional "amount" amount fun i n => { i with amount := n },
    .optional "char" character fun i c => { i with character := c }]
  initial := {}

def indent : Decoder Indent := indentShape.decoder

def renderOptionsShape : Shape RenderOptions where
  name := "RenderOptions"
  slots := [
    .optional "indent" indent fun o i => { o with indent := i },
    .optional "root_name" string fun o s => { o with rootName := s },
    .optional "module_name" string fun o s => { o with moduleName := s }]
  initial := {}

def renderOptions : Decoder RenderOptions := renderOptionsShape.decoder

def configurationShape : Shape Configuration where
  name := "TypegenConfig"
  slots := [
    .optional "naming" naming fun c n => { c with naming := n },
    .optional "root_name" string fun c s => { c with rootName := s },
    .optional "module_name" string fun c s => { c with moduleName := s },
    .optional "indent" indent fun c i => { c with indent := i },
    .optional "output" (option (stringAs "path string")) fun c s => { c with output := s }]
  initial := {}

def configuration : Decoder Configuration := configurationShape.decoder

end ContentTypes.Decoder
