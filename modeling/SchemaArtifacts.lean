import SchemaArtifacts.Artifact.FromDocument
import SchemaArtifacts.Csv.Values
import SchemaArtifacts.Journal
import SchemaArtifacts.Main
import SchemaArtifacts.Proofs.Schema.FileFormat
import SchemaArtifacts.Proofs.Schema.Rereading
import SchemaArtifacts.Proofs.Sql.Noninterference
import SchemaArtifacts.Template.Shipped
import SchemaArtifacts.Proofs.Escape.Delimited
import SchemaArtifacts.Proofs.Csv.ReadBack
import SchemaArtifacts.Proofs.Escape.Keys
import SchemaArtifacts.Proofs.Escape.Line
import SchemaArtifacts.Proofs.Text.Lines
import SchemaArtifacts.Proofs.Artifact.CodeLines
import SchemaArtifacts.Proofs.Escape.Script
import SchemaArtifacts.Proofs.Naming.Characters
import SchemaArtifacts.Proofs.Naming.Register
import SchemaArtifacts.Proofs.Interface.ReadBack
import SchemaArtifacts.Proofs.Collection.ReadBack
import SchemaArtifacts.Proofs.Artifact.Registry
import SchemaArtifacts.Proofs.Artifact.Bundle
import SchemaArtifacts.Proofs.Naming.Answers
import SchemaArtifacts.Proofs.Prisma.Names
import SchemaArtifacts.Proofs.Artifact.Names
import SchemaArtifacts.Proofs.Artifact.Refusals
import SchemaArtifacts.Proofs.Settings.Precedence
import SchemaArtifacts.Proofs.Settings.ReadBack
import SchemaArtifacts.Proofs.Relation.Application
import SchemaArtifacts.Proofs.Sql.TableScripts
import SchemaArtifacts.Proofs.Sample.Formats
import SchemaArtifacts.Proofs.CommandLine.WrittenFiles
import SchemaArtifacts.Proofs.CommandLine.WrittenPlaces
import SchemaArtifacts.Proofs.Artifact.Descriptions
import SchemaArtifacts.Proofs.Sql.DerivedNames
import SchemaArtifacts.Proofs.Artifact.ClosedSets
import SchemaArtifacts.Proofs.CommandLine.OrderSettings
import SchemaArtifacts.Proofs.FieldGroup.Keys
import SchemaArtifacts.Proofs.Journal.Destinations
import SchemaArtifacts.Proofs.Markdown.Outline
import SchemaArtifacts.Proofs.Sql.Remarks
import SchemaArtifacts.Proofs.Sql.CommentLiterals
import SchemaArtifacts.Proofs.Schema.CyclicOrder
import SchemaArtifacts.Proofs.Artifact.Identifiers
import SchemaArtifacts.Proofs.Prisma.Mapping
import SchemaArtifacts.Proofs.Prisma.Expressions
import SchemaArtifacts.Proofs.Prisma.EnumDefaults
import SchemaArtifacts.Proofs.Schema.ForeignKeyGrammar
import SchemaArtifacts.Proofs.Artifact.TidyText
import SchemaArtifacts.Proofs.Markdown.FieldTable
import SchemaArtifacts.Proofs.Markdown.Contents
import SchemaArtifacts.Proofs.Relation.Hints
import SchemaArtifacts.Proofs.Artifact.RepeatedKinds
import SchemaArtifacts.Proofs.Settings.DialectCheck
import SchemaArtifacts.Proofs.Schema.OfferedNames
import SchemaArtifacts.Proofs.Sample.Placeholders
import SchemaArtifacts.Proofs.Artifact.Comments
import SchemaArtifacts.Proofs.Escape.BrokenRuns
import SchemaArtifacts.Proofs.Escape.Markup
import SchemaArtifacts.Proofs.Naming.Shapes
