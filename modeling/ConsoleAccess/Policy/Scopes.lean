import ConsoleAccess.Text.Blank

/-!
The scopes that the console asks for, by name, and the hint shown where they are missing.
-/

namespace ConsoleAccess.Scopes

def allActions : Text := "s3:*".toList
def getActions : Text := "s3:Get*".toList
def putActions : Text := "s3:Put*".toList
def listActions : Text := "s3:List*".toList
def adminActions : Text := "admin:*".toList

def getObject : Text := "s3:GetObject".toList
def putObject : Text := "s3:PutObject".toList
def deleteObject : Text := "s3:DeleteObject".toList
def listBucket : Text := "s3:ListBucket".toList
def listAllBuckets : Text := "s3:ListAllMyBuckets".toList
def createBucket : Text := "s3:CreateBucket".toList
def deleteBucket : Text := "s3:DeleteBucket".toList
def getBucketVersioning : Text := "s3:GetBucketVersioning".toList
def putBucketVersioning : Text := "s3:PutBucketVersioning".toList
def getObjectRetention : Text := "s3:GetObjectRetention".toList
def putObjectRetention : Text := "s3:PutObjectRetention".toList
def bypassGovernance : Text := "s3:BypassGovernanceRetention".toList

def wildcards : List Text := [allActions, getActions, putActions, listActions, adminActions]

def names : List Text :=
  [getObject, putObject, deleteObject, listBucket, listAllBuckets, createBucket, deleteBucket,
    getBucketVersioning, putBucketVersioning, getObjectRetention, putObjectRetention,
    bypassGovernance]

def upload : List Text := [putObject, putActions]

def browse : List Text := [listBucket, listAllBuckets]

def tooltip (scopes : List Text) (action : Text) : Text :=
  "You require additional permissions in order to ".toList ++ action ++
    ". Please ask your administrator for the following [".toList ++
    ", ".toList.intercalate scopes ++ "] permission.".toList

end ConsoleAccess.Scopes
