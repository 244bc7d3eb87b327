import BlogPaths.Assigned
import BlogPaths.Blog
import BlogPaths.Calendar.Numeral
import BlogPaths.Calendar.Timestamp
import BlogPaths.Classifier.Pass
import BlogPaths.Classifier.Promotion
import BlogPaths.Classifier.Turn
import BlogPaths.Decimal.Binary64
import BlogPaths.Index
import BlogPaths.Language
import BlogPaths.Metadata.Value
import BlogPaths.Permalink.Expansion
import BlogPaths.Permalink.Template
import BlogPaths.Proofs.Answers
import BlogPaths.Proofs.CanonicalSegments
import BlogPaths.Proofs.Captures
import BlogPaths.Proofs.Clock
import BlogPaths.Proofs.Companions
import BlogPaths.Proofs.Descriptions
import BlogPaths.Proofs.DigitDates
import BlogPaths.Proofs.Drafts
import BlogPaths.Proofs.Expansions
import BlogPaths.Proofs.ExpressionReading
import BlogPaths.Proofs.Failures
import BlogPaths.Proofs.FieldPlaces
import BlogPaths.Proofs.Fields
import BlogPaths.Proofs.FixedPaths
import BlogPaths.Proofs.Greedy
import BlogPaths.Proofs.Independence
import BlogPaths.Proofs.IndexOrder
import BlogPaths.Proofs.Joins
import BlogPaths.Proofs.Kinds
import BlogPaths.Proofs.Lacks
import BlogPaths.Proofs.LanguageForms
import BlogPaths.Proofs.LanguageQueries
import BlogPaths.Proofs.LetterCase
import BlogPaths.Proofs.LoadedTags
import BlogPaths.Proofs.OwnTemplate
import BlogPaths.Proofs.Owners
import BlogPaths.Proofs.PassAgain
import BlogPaths.Proofs.PassFrame
import BlogPaths.Proofs.PassOrder
import BlogPaths.Proofs.Pieces
import BlogPaths.Proofs.Placeholders
import BlogPaths.Proofs.RoundTrips
import BlogPaths.Proofs.Runs
import BlogPaths.Proofs.Slugs
import BlogPaths.Proofs.Standings
import BlogPaths.Proofs.TagGroups
import BlogPaths.Proofs.TagLists
import BlogPaths.Proofs.TemplatePieces
import BlogPaths.Proofs.Turns
import BlogPaths.Proofs.Writes
import BlogPaths.Reading.Checked
import BlogPaths.Reading.Resource
import BlogPaths.Resource
import BlogPaths.Site
import BlogPaths.Slug
import BlogPaths.Source.Description
import BlogPaths.Source.Field
import BlogPaths.Source.Pattern
import BlogPaths.Template.Segment
import BlogPaths.Text.Basic
import BlogPaths.Text.Percent
import BlogPaths.Unicode.AsciiFold
import BlogPaths.Unicode.Case
import BlogPaths.Unicode.Ranges
